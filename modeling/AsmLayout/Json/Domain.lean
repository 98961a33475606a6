import AsmLayout.Json.Value
import AsmLayout.Section.Segment
import AsmLayout.Seed

/-! # Dialects, segments, kinds and seeds in JSON

Names are written as strings, a seed as the array of its bytes.
-/

namespace AsmLayout

def Dialect.reader : Json.Reader Dialect :=
  Json.choice ([Dialect.libfirm, .gcc].map fun d => (d.name, d))

def DataSegment.reader : Json.Reader DataSegment :=
  Json.choice ([DataSegment.bss, .data, .rodata].map fun s => (s.name, s))

def SectionKind.reader : Json.Reader SectionKind :=
  Json.choice ([SectionKind.plain, .function].map fun k => (k.name, k))

namespace Seed

def byte? (value : Json.Value) : Option UInt8 :=
  match value.natural? with
  | some n => if n < 256 then some (UInt8.ofNat n) else none
  | none => none

def readByte (bytes : List UInt8) : Json.Reader (List UInt8) := fun cs =>
  if bytes.length < 32 then do
    let (byte, rest) ← Json.scalar byte? cs
    return (bytes ++ [byte], rest)
  else .error .malformed

def reader : Json.Reader Seed := fun cs => do
  let (bytes, rest) ← Json.array readByte [] cs
  if h : bytes.length = 32 then return (⟨bytes, h⟩, rest) else throw .mismatched

def toJson (seed : Seed) : String :=
  "[" ++ ",".intercalate (seed.bytes.map fun byte => toString byte.toNat) ++ "]"

end Seed

end AsmLayout
