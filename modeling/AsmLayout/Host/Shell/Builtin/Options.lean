import AsmLayout.Host.Shell.Arithmetic
import AsmLayout.Host.Shell.Session

/-! # Options and numbers in the words of a command -/

namespace AsmLayout.Host

open Text (Octets)

/-- Whether an option takes an argument, if it is allowed. A colon behind a letter says that it does. -/
def optionKind? (letter : Char) : List Char → Option Bool
  | [] => none
  | c :: rest =>
    if c = letter && c != ':' then some (rest.head? = some ':') else optionKind? letter rest

/-- The options at the front of words, each with its argument, and the other words. -/
def takeOptions (allowed : String) :
    (fuel : Nat) → List Octets → Shell (List (Char × Octets) × List Octets)
  | fuel + 1, ('-' :: c :: letters) :: words => do
    if c = '-' && letters.isEmpty then return ([], words)
    match optionKind? c allowed.toList with
    | none => giveUp (ascii "Illegal option -" ++ [c])
    | some false =>
      let further := if letters.isEmpty then words else ('-' :: letters) :: words
      let (others, left) ← takeOptions allowed fuel further
      return ((c, []) :: others, left)
    | some true =>
      match letters, words with
      | [], [] => giveUp (ascii "No arg for -" ++ [c] ++ ascii " option")
      | [], argument :: words =>
        let (others, left) ← takeOptions allowed fuel words
        return ((c, argument) :: others, left)
      | letters, words =>
        let (others, left) ← takeOptions allowed fuel words
        return ((c, letters) :: others, left)
  | _, words => return ([], words)

/-- The options at the front of words, each with its argument, and the other words. -/
def optionsOf (allowed : String) (words : List Octets) :
    Shell (List (Char × Octets) × List Octets) :=
  takeOptions allowed ((words.map (·.length + 1)).foldl (· + ·) 1) words

/-- Whether a text consists of digits. -/
def isNumeral (text : Octets) : Bool :=
  !text.isEmpty && text.all fun c => '0' ≤ c && c ≤ '9'

/-- The natural number that a word stands for. -/
def naturalOf? (word : Octets) : Option Nat :=
  if isNumeral word then
    let n := (Arithmetic.digits 10 word).1
    if n ≤ 0x7fffffff then some n else none
  else none

/-- The natural number that a word stands for; anything else is a mistake. -/
def naturalOf (word : Octets) : Shell Nat :=
  match naturalOf? word with
  | some n => return n
  | none => giveUp (ascii "Illegal number: " ++ word)

/-- A text in quotes that a shell reads as the text itself. -/
def quoteText : Octets → Octets :=
  let rec go : (fuel : Nat) → Octets → Octets
    | 0, _ => []
    | fuel + 1, text =>
      let plain := text.takeWhile (· != '\'')
      let rest := text.drop plain.length
      let marks := rest.takeWhile (· == '\'')
      let behind := rest.drop marks.length
      '\'' :: plain ++ ['\''] ++
        (if marks.isEmpty then []
         else '"' :: marks ++ ['"'] ++ (if behind.isEmpty then [] else go fuel behind))
  fun text => go (text.length + 1) text

/-- The number of a signal, by its number or its name. -/
def signalOf? (least : Nat) (word : Octets) : Option Nat :=
  match naturalOf? word with
  | some n => if n ≤ 64 then some n else none
  | none =>
    let name := String.ofList (word.map Char.toUpper)
    if name = "EXIT" && least = 0 then some 0 else signalNumber? name

def signalName (signal : Nat) : String :=
  if signal = 0 then "EXIT" else signalNames.getD (signal - 1) (toString signal)

end AsmLayout.Host
