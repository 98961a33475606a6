import AsmLayout.Seed
import Mathlib.Data.String.Basic

/-! # Laws of seed texts

A seed is read from 64 hexadecimal digits, with or without `0x` in front, and from no other text. It is
written with `0x` and lower-case digits, so texts give the same seed exactly when they differ in the
`0x` and in letter case alone.
-/

namespace AsmLayout

namespace Seed

/-! ## Digits -/

/-- The hexadecimal digits of both cases. -/
def hexDigits : List Char :=
  "0123456789abcdefABCDEF".toList

theorem digitValue?_of_mem {c : Char} (digit : c ∈ hexDigits) :
    ∃ value, digitValue? c = some value ∧ digitChar value = c.toLower := by
  have all : (hexDigits.all fun c => (digitValue? c).any fun value =>
      digitChar value = c.toLower) = true := by decide
  obtain ⟨value, read, written⟩ := (Option.any_eq_true ..).mp (List.all_eq_true.mp all c digit)
  exact ⟨value, read, of_decide_eq_true written⟩

theorem mem_hexDigits_of_range {c low high : Char} (from' : low ≤ c) (upTo : c ≤ high)
    (digits : ∀ code ∈ List.range' low.toNat (high.toNat - low.toNat + 1),
      Char.ofNat code ∈ hexDigits) : c ∈ hexDigits := by
  have lower : low.toNat ≤ c.toNat := from'
  have upper : c.toNat ≤ high.toNat := upTo
  rw [← Char.ofNat_toNat c]
  refine digits c.toNat ?_
  rw [List.mem_range'_1]
  omega

theorem mem_hexDigits_of_digitValue? {c : Char} {value : UInt8} (read : digitValue? c = some value) :
    c ∈ hexDigits := by
  unfold digitValue? at read
  split at read
  · rename_i decimal
    exact mem_hexDigits_of_range decimal.1 decimal.2 (by decide)
  · split at read
    · rename_i lower
      exact mem_hexDigits_of_range lower.1 lower.2 (by decide)
    · split at read
      · rename_i upper
        exact mem_hexDigits_of_range upper.1 upper.2 (by decide)
      · contradiction

theorem digitValue?_digitChar {value : UInt8} (small : value < 16) :
    digitValue? (digitChar value) = some value := by
  have all : ∀ n ∈ List.range 16,
      digitValue? (digitChar (UInt8.ofNat n)) = some (UInt8.ofNat n) := by decide
  have read := all value.toNat (List.mem_range.mpr small)
  rwa [UInt8.ofNat_toNat] at read

theorem lt_of_digitValue? {c : Char} {value : UInt8} (read : digitValue? c = some value) :
    value < 16 := by
  have all : (hexDigits.all fun c => (digitValue? c).all fun value => value < 16) = true := by decide
  have small := List.all_eq_true.mp all c (mem_hexDigits_of_digitValue? read)
  rw [read] at small
  exact of_decide_eq_true small

/-! ## Bytes -/

theorem bytesOfDigits?_digitsOfBytes (bytes : List UInt8) :
    bytesOfDigits? (digitsOfBytes bytes) = some bytes := by
  induction bytes with
  | nil => rfl
  | cons byte rest ih =>
      have high : byte / 16 < 16 := by grind
      have low : byte % 16 < 16 := by grind
      have whole : byte / 16 * 16 + byte % 16 = byte := by grind
      rw [digitsOfBytes, List.flatMap_cons, List.cons_append, List.cons_append, List.nil_append,
        bytesOfDigits?, digitValue?_digitChar high, digitValue?_digitChar low]
      rw [digitsOfBytes] at ih
      simp only [ih, whole]

theorem spelled_of_bytesOfDigits? {digits : List Char} {bytes : List UInt8}
    (read : bytesOfDigits? digits = some bytes) :
    (∀ c ∈ digits, c ∈ hexDigits) ∧ digits.length = 2 * bytes.length ∧
      digitsOfBytes bytes = digits.map Char.toLower := by
  fun_induction bytesOfDigits? digits generalizing bytes with
  | case1 =>
      cases read
      simp [digitsOfBytes]
  | case2 => contradiction
  | case3 high low rest h l bytes' readRest readLow readHigh ih =>
      cases read
      obtain ⟨digits, length, spelled⟩ := ih readRest
      have first := mem_hexDigits_of_digitValue? readHigh
      have second := mem_hexDigits_of_digitValue? readLow
      obtain ⟨_, same, writtenHigh⟩ := digitValue?_of_mem first
      cases readHigh.symm.trans same
      obtain ⟨_, same, writtenLow⟩ := digitValue?_of_mem second
      cases readLow.symm.trans same
      have smallHigh := lt_of_digitValue? readHigh
      have smallLow := lt_of_digitValue? readLow
      have upper : (h * 16 + l) / 16 = h := by grind
      have lower : (h * 16 + l) % 16 = l := by grind
      refine ⟨?_, ?_, ?_⟩
      · simpa [first, second] using digits
      · simp only [List.length_cons, length]
        omega
      · rw [digitsOfBytes] at spelled ⊢
        rw [List.flatMap_cons, upper, lower, writtenHigh, writtenLow, spelled]
        rfl
  | case4 => contradiction

theorem exists_bytesOfDigits? {digits : List Char} {count : Nat} (length : digits.length = 2 * count)
    (hex : ∀ c ∈ digits, c ∈ hexDigits) : ∃ bytes, bytesOfDigits? digits = some bytes := by
  fun_induction bytesOfDigits? digits generalizing count with
  | case1 => exact ⟨[], rfl⟩
  | case2 =>
      rw [List.length_singleton] at length
      omega
  | case3 => exact ⟨_, rfl⟩
  | case4 high low rest unread ih =>
      have behind : rest.length = 2 * (count - 1) := by
        simp only [List.length_cons] at length
        omega
      obtain ⟨h, readHigh, -⟩ := digitValue?_of_mem (hex high (by simp))
      obtain ⟨l, readLow, -⟩ := digitValue?_of_mem (hex low (by simp))
      obtain ⟨bytes, readRest⟩ := ih behind fun c member => hex c (by simp [member])
      exact absurd readRest (unread h l bytes readHigh readLow)

theorem utf8ByteSize_of_hex {digits : List Char} (hex : ∀ c ∈ digits, c ∈ hexDigits) :
    (String.ofList digits).utf8ByteSize = digits.length := by
  have single : (hexDigits.all (·.utf8Size == 1)) = true := by decide
  rw [String.utf8ByteSize_ofList]
  induction digits with
  | nil => rfl
  | cons c rest ih =>
      have one := beq_iff_eq.mp (List.all_eq_true.mp single c (hex c (List.mem_cons_self ..)))
      rw [String.utf8Len_cons, ih fun d member => hex d (List.mem_cons_of_mem _ member), one,
        List.length_cons]

/-! ## Texts -/

theorem dropMarker_spec (cs : List Char) :
    cs = "0x".toList ++ dropMarker cs ∨ cs = dropMarker cs ∧ ¬"0x".toList <+: cs := by
  fun_cases dropMarker cs with
  | case1 digits => exact .inl rfl
  | case2 digits other =>
      refine .inr ⟨rfl, ?_⟩
      rintro ⟨behind, rfl⟩
      exact other behind rfl

theorem ofHex_eq_ok_iff {text : String} {seed : Seed} :
    ofHex text = .ok seed ↔ bytesOfDigits? (dropMarker text.toList) = some seed.bytes := by
  constructor
  · intro given
    simp only [ofHex] at given
    split at given
    · contradiction
    · split at given
      · contradiction
      · rename_i read
        split at given
        · cases given
          exact read
        · contradiction
  · intro read
    obtain ⟨hex, length, -⟩ := spelled_of_bytesOfDigits? read
    have size : (String.ofList (dropMarker text.toList)).utf8ByteSize = 64 := by
      rw [utf8ByteSize_of_hex hex, length, seed.length_bytes]
    simp only [ofHex, size, read, seed.length_bytes, ne_eq, not_true_eq_false, if_false, dif_pos]

theorem exists_ofHex_iff (text : String) :
    (∃ seed, ofHex text = .ok seed) ↔
      (dropMarker text.toList).length = 64 ∧ ∀ c ∈ dropMarker text.toList, c ∈ hexDigits := by
  constructor
  · rintro ⟨seed, given⟩
    obtain ⟨hex, length, -⟩ := spelled_of_bytesOfDigits? (ofHex_eq_ok_iff.mp given)
    rw [seed.length_bytes] at length
    exact ⟨length, hex⟩
  · rintro ⟨length, hex⟩
    obtain ⟨bytes, read⟩ := exists_bytesOfDigits? (show _ = 2 * 32 from length) hex
    have count : bytes.length = 32 := by
      have spelled := (spelled_of_bytesOfDigits? read).2.1
      omega
    exact ⟨⟨bytes, count⟩, ofHex_eq_ok_iff.mpr read⟩

theorem ofHex_eq_length_iff (text : String) (n : Nat) :
    ofHex text = .error (.invalidSeedLength n) ↔
      (String.ofList (dropMarker text.toList)).utf8ByteSize = n ∧ n ≠ 64 := by
  simp only [ofHex]
  split
  · rename_i other
    constructor
    · intro refused
      cases refused
      exact ⟨rfl, other⟩
    · rintro ⟨rfl, -⟩
      rfl
  · rename_i size
    have size := not_not.mp size
    constructor
    · intro refused
      split at refused
      · cases refused
      · split at refused <;> cases refused
    · rintro ⟨rfl, other⟩
      exact absurd size other

theorem ofHex_eq_digit_iff (text : String) :
    ofHex text = .error .invalidSeedHex ↔
      (String.ofList (dropMarker text.toList)).utf8ByteSize = 64 ∧
        ∃ c ∈ dropMarker text.toList, c ∉ hexDigits := by
  constructor
  · intro refused
    have size : (String.ofList (dropMarker text.toList)).utf8ByteSize = 64 := by
      by_contra other
      rw [(ofHex_eq_length_iff text _).mpr ⟨rfl, other⟩] at refused
      cases refused
    refine ⟨size, ?_⟩
    by_contra none
    have hex : ∀ c ∈ dropMarker text.toList, c ∈ hexDigits := by simpa using none
    rw [utf8ByteSize_of_hex hex] at size
    obtain ⟨seed, given⟩ := (exists_ofHex_iff text).mpr ⟨size, hex⟩
    rw [given] at refused
    contradiction
  · rintro ⟨size, c, member, other⟩
    cases given : ofHex text with
    | ok seed => exact absurd (((exists_ofHex_iff text).mp ⟨seed, given⟩).2 c member) other
    | error cause =>
        simp only [ofHex, size, ne_eq, not_true_eq_false, if_false] at given
        split at given
        · exact given.symm
        · split at given
          · contradiction
          · exact given.symm

theorem digitsOfBytes_of_ofHex {text : String} {seed : Seed} (given : ofHex text = .ok seed) :
    digitsOfBytes seed.bytes = (dropMarker text.toList).map Char.toLower :=
  (spelled_of_bytesOfDigits? (ofHex_eq_ok_iff.mp given)).2.2

theorem ofHex_toHex (seed : Seed) : ofHex seed.toHex = .ok seed := by
  rw [ofHex_eq_ok_iff, toHex, String.toList_ofList]
  exact bytesOfDigits?_digitsOfBytes seed.bytes

theorem eq_iff_digitsOfBytes {seed other : Seed} :
    seed = other ↔ digitsOfBytes seed.bytes = digitsOfBytes other.bytes := by
  constructor
  · rintro rfl
    rfl
  · intro same
    have read := bytesOfDigits?_digitsOfBytes seed.bytes
    rw [same, bytesOfDigits?_digitsOfBytes, Option.some.injEq] at read
    cases seed
    cases other
    cases read
    rfl

/-- Without one `0x` in front, a text that gives a seed is 64 hexadecimal digits of either case. Any
    other text is refused: for its length, counted in bytes of UTF-8, if that is not 64, and else for
    a character that is no digit. A seed is written as `0x` and the digits in lower case, and is read
    back from that; so two texts give the same seed exactly if they agree up to the `0x` and letter
    case. -/
theorem hex_text_exact (text : String) :
    let digits := dropMarker text.toList
    let size := (String.ofList digits).utf8ByteSize
    (text.toList = "0x".toList ++ digits ∨ text.toList = digits ∧ ¬"0x".toList <+: text.toList) ∧
    ((∃ seed, ofHex text = .ok seed) ↔ digits.length = 64 ∧ ∀ c ∈ digits, c ∈ hexDigits) ∧
    (∀ n, ofHex text = .error (.invalidSeedLength n) ↔ size = n ∧ n ≠ 64) ∧
    (ofHex text = .error .invalidSeedHex ↔ size = 64 ∧ ∃ c ∈ digits, c ∉ hexDigits) ∧
    (∀ seed, ofHex text = .ok seed → seed.toHex.toList = "0x".toList ++ digits.map Char.toLower) ∧
    (∀ seed, ofHex (toHex seed) = .ok seed) ∧
    ∀ other seed seed', ofHex text = .ok seed → ofHex other = .ok seed' →
      (seed = seed' ↔
        digits.map Char.toLower = (dropMarker other.toList).map Char.toLower) := by
  intro digits size
  refine ⟨dropMarker_spec text.toList, exists_ofHex_iff text, ofHex_eq_length_iff text,
    ofHex_eq_digit_iff text, ?_, ofHex_toHex, ?_⟩
  · intro seed given
    rw [toHex, String.toList_ofList, digitsOfBytes_of_ofHex given]
    rfl
  · intro other seed seed' given given'
    rw [eq_iff_digitsOfBytes, digitsOfBytes_of_ofHex given, digitsOfBytes_of_ofHex given']

/-- Two spellings of one seed, and 64 bytes without a digit. -/
theorem hex_text_exact_in_both_cases :
    let upper := "0x" ++ String.ofList (List.replicate 32 ['0', 'A']).flatten
    let lower := String.ofList (List.replicate 32 ['0', 'a']).flatten
    let accents := String.ofList (List.replicate 32 'é')
    let seed : Seed := ⟨List.replicate 32 10, List.length_replicate⟩
    ofHex upper = .ok seed ∧ ofHex lower = .ok seed ∧
      seed.toHex.toList = "0x".toList ++ (List.replicate 32 ['0', 'a']).flatten ∧
      (dropMarker upper.toList).map Char.toLower = (dropMarker lower.toList).map Char.toLower ∧
      ofHex accents = .error .invalidSeedHex := by
  intro upper lower accents seed
  have given : ofHex upper = .ok seed := ofHex_eq_ok_iff.mpr (by decide +kernel)
  have given' : ofHex lower = .ok seed := ofHex_eq_ok_iff.mpr (by decide +kernel)
  obtain ⟨-, -, -, -, written, -, agree⟩ := hex_text_exact upper
  obtain ⟨-, -, -, refused, -⟩ := hex_text_exact accents
  refine ⟨given, given', ?_, (agree lower seed seed given given').mp rfl, ?_⟩
  · rw [written seed given]
    decide +kernel
  · exact refused.mpr ⟨by decide +kernel, 'é', by decide +kernel, by decide⟩

end Seed

end AsmLayout
