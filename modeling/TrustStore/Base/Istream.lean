import TrustStore.Base.Fallible
import Mathlib.Data.List.TakeWhile

/-!
# Formatted input

Support library: extraction with `>>` from a `std::stringstream`, with the default flags and the
classic locale. A stream is what is left of its text and two flags; extractions that fail set
`failbit` and let all later ones fail, without an exception. What an extraction takes is stated on
texts: blanks, words and numerals.
-/

namespace TrustStore.Base

/-! ### Texts -/

/-- What `std::isspace` accepts in the classic locale. -/
def isSpace (c : Char) : Bool :=
  c = ' ' || c = '\t' || c = '\n' || c = '\x0b' || c = '\x0c' || c = '\r'

/-- A text of nothing but whitespace. -/
def Blank (text : List Char) : Prop := ∀ c ∈ text, isSpace c = true

/-- A non-empty text without whitespace. -/
def Word (text : List Char) : Prop := text ≠ [] ∧ ∀ c ∈ text, isSpace c = false

/-- The text is at its end, or goes on with whitespace. -/
def Parted (text : List Char) : Prop := ∀ c ∈ text.head?, isSpace c = true

instance (text : List Char) : Decidable (Blank text) :=
  List.decidableBAll (fun c => isSpace c = true) text

instance (text : List Char) : Decidable (Word text) :=
  @instDecidableAnd _ _ inferInstance (List.decidableBAll (fun c => isSpace c = false) text)

instance (text : List Char) : Decidable (Parted text) :=
  Option.decidableForallMem text.head?

/-- The fields of a text that are separated by whitespace. -/
def fields (text : List Char) : List (List Char) :=
  (text.splitOnP isSpace).filter fun word => !word.isEmpty

/-- A non-empty text of decimal digits. -/
def Numeral (text : List Char) : Prop := text ≠ [] ∧ ∀ c ∈ text, c.isDigit = true

instance (text : List Char) : Decidable (Numeral text) :=
  @instDecidableAnd _ _ inferInstance (List.decidableBAll (fun c => c.isDigit = true) text)

/-! ### Runs of characters -/

/-- A digit is not whitespace. -/
theorem not_isSpace_of_isDigit {c : Char} (h : c.isDigit = true) : isSpace c = false := by
  cases hspace : isSpace c with
  | false => rfl
  | true =>
    simp only [isSpace, Bool.or_eq_true, decide_eq_true_eq] at hspace
    rcases hspace with ((((rfl | rfl) | rfl) | rfl) | rfl) | rfl <;> exact absurd h (by decide)

section

variable {p : Char → Bool} {run rest text gap word : List Char}

/-- A run of characters is taken whole if another character ends it. -/
private theorem takeWhile_run (hrun : ∀ c ∈ run, p c = true)
    (hrest : ∀ c ∈ rest.head?, p c = false) : (run ++ rest).takeWhile p = run := by
  rw [List.takeWhile_append_of_pos hrun]
  cases rest with
  | nil => simp
  | cons c rest => simp [hrest c rfl]

/-- What ends a run of characters is left. -/
private theorem dropWhile_run (hrun : ∀ c ∈ run, p c = true)
    (hrest : ∀ c ∈ rest.head?, p c = false) : (run ++ rest).dropWhile p = rest := by
  rw [List.dropWhile_append_of_pos hrun]
  cases rest with
  | nil => rfl
  | cons c rest => simp [hrest c rfl]

/-- A text starts with a run, and goes on with a character that ends it. -/
private theorem exists_run (p : Char → Bool) (text : List Char) :
    ∃ run rest, text = run ++ rest ∧ (∀ c ∈ run, p c = true) ∧
      ∀ c ∈ rest.head?, p c = false := by
  refine ⟨text.takeWhile p, text.dropWhile p, List.takeWhile_append_dropWhile.symm,
    fun c => List.mem_takeWhile_imp, fun c hc => ?_⟩
  have hnot := List.head?_dropWhile_not p text
  rw [Option.mem_def.mp hc] at hnot
  simpa using hnot

/-- A text is blank, or has a first word. -/
theorem blank_or_word (text : List Char) : Blank text ∨ ∃ gap word rest,
    text = gap ++ (word ++ rest) ∧ Blank gap ∧ Word word ∧ Parted rest := by
  obtain ⟨gap, tail, rfl, hgap, htail⟩ := exists_run isSpace text
  obtain ⟨word, rest, rfl, hword, hrest⟩ := exists_run (!isSpace ·) tail
  by_cases hne : word = []
  · subst hne
    left
    cases rest with
    | nil => simpa [Blank] using hgap
    | cons c rest => simpa [htail c rfl] using hrest c rfl
  · right
    exact ⟨gap, word, rest, rfl, hgap, ⟨hne, by simpa using hword⟩, by simpa [Parted] using hrest⟩

/-- A word starts with a character that is not whitespace. -/
theorem Word.eq_cons (h : Word word) : ∃ c cs, word = c :: cs ∧ isSpace c = false := by
  obtain ⟨c, cs, rfl⟩ := List.exists_cons_of_ne_nil h.1
  exact ⟨c, cs, rfl, h.2 c (List.mem_cons_self ..)⟩

/-- Words without anything in between are one word. -/
theorem Word.append {other : List Char} (h : Word word) (hother : Word other) :
    Word (word ++ other) := by
  refine ⟨by simp [h.1], fun c hc => ?_⟩
  rcases List.mem_append.mp hc with hc | hc
  · exact h.2 c hc
  · exact hother.2 c hc

/-! ### Fields -/

private theorem fields_cons {c : Char} (h : isSpace c = true) :
    fields (c :: text) = fields text := by
  simp [fields, List.splitOnP_cons_eq_if_modifyHead, h]

/-- Whitespace in front of a text is in no field. -/
theorem fields_append (hgap : Blank gap) : fields (gap ++ text) = fields text := by
  induction gap with
  | nil => rfl
  | cons c gap ih =>
    rw [List.cons_append, fields_cons (hgap c (List.mem_cons_self ..))]
    exact ih fun d hd => hgap d (List.mem_cons_of_mem c hd)

/-- A blank text has no fields. -/
theorem fields_blank (h : Blank text) : fields text = [] := by
  have htext : fields (text ++ []) = fields [] := fields_append h
  rw [List.append_nil] at htext
  exact htext

/-- The first word of a text is its first field. -/
theorem fields_word (hword : Word word) (hrest : Parted rest) :
    fields (word ++ rest) = word :: fields rest := by
  have hne : (!word.isEmpty) = true := by simpa using hword.1
  cases rest with
  | nil => simp [fields, List.splitOnP_eq_singleton hword.2, hne]
  | cons c rest =>
    have hc : isSpace c = true := hrest c rfl
    rw [fields_cons hc, fields, List.splitOnP_append_cons_of_forall_mem hword.2 c hc]
    exact List.filter_cons_of_pos hne

/-- A text without fields is blank. -/
theorem blank_of_fields (h : fields text = []) : Blank text := by
  rcases blank_or_word text with hblank | ⟨gap, word, rest, rfl, hgap, hword, hrest⟩
  · exact hblank
  · rw [fields_append hgap, fields_word hword hrest] at h
    cases h

/-- The first field of a text is its first word. -/
theorem word_of_fields {words : List (List Char)} (h : fields text = word :: words) :
    ∃ gap rest, text = gap ++ (word ++ rest) ∧ Blank gap ∧ Word word ∧ Parted rest ∧
      fields rest = words := by
  rcases blank_or_word text with hblank | ⟨gap, first, rest, rfl, hgap, hword, hrest⟩
  · rw [fields_blank hblank] at h
    cases h
  · rw [fields_append hgap, fields_word hword hrest] at h
    cases h
    exact ⟨gap, rest, rfl, hgap, hword, hrest, rfl⟩

end

/-! ### Streams -/

/-- The characters that an input stream has still to read, `eofbit` and `failbit`. Reading from a
text in memory does not set `badbit`. -/
structure Istream where
  rest : List Char
  eof : Bool
  fail : Bool
  deriving DecidableEq, Repr

namespace Istream

open Fallible (ofFn)

variable {ε : Type}

/-- A `std::stringstream` over a text. -/
def ofString (s : String) : Istream := ⟨s.toList, false, false⟩

/-- `std::ios::good` -/
def good (i : Istream) : Bool := !i.eof && !i.fail

/-- `std::istream::sentry`: skips whitespace, and tells whether there is something to extract. -/
def sentry (i : Istream) : Bool × Istream :=
  if i.good then
    match i.rest.dropWhile isSpace with
    | [] => (false, ⟨[], true, true⟩)
    | c :: rest => (true, ⟨c :: rest, false, false⟩)
  else (false, { i with fail := true })

/-- `operator>>(std::istream&, std::string&)`: extracts a word. -/
def extractString (s : String) : Fallible ε Istream String :=
  ofFn fun i =>
    match i.sentry with
    | (false, i) => (.ok s, i)
    | (true, i) =>
      let word := i.rest.takeWhile (!isSpace ·)
      let rest := i.rest.dropWhile (!isSpace ·)
      (.ok (String.ofList word), ⟨rest, rest.isEmpty, word.isEmpty⟩)

/-- The sign of a numeral. -/
inductive Sign where
  | none
  | plus
  | minus
  deriving DecidableEq, Repr

/-- How a sign is written. -/
def Sign.text : Sign → List Char
  | none => []
  | plus => ['+']
  | minus => ['-']

/-- A sign, if there is one, and what follows it. -/
def takeSign : List Char → Sign × List Char
  | '+' :: rest => (.plus, rest)
  | '-' :: rest => (.minus, rest)
  | rest => (.none, rest)

/-- The value of a numeral, which wraps around under a minus sign as `std::strtoull` has it. -/
def wrapped (sign : Sign) (magnitude : Nat) : UInt64 :=
  match sign with
  | .none | .plus => .ofNat magnitude
  | .minus => -.ofNat magnitude

/-- `operator>>(std::istream&, std::uint64_t&)`: extracts a decimal numeral, with the value of
`std::num_get`. -/
def extractUInt64 (n : UInt64) : Fallible ε Istream UInt64 :=
  ofFn fun i =>
    match i.sentry with
    | (false, i) => (.ok n, i)
    | (true, i) =>
      let (sign, unsigned) := takeSign i.rest
      let digits := unsigned.takeWhile Char.isDigit
      let rest := unsigned.dropWhile Char.isDigit
      let magnitude := Nat.ofDigitChars 10 digits 0
      if digits = [] then (.ok 0, ⟨rest, rest.isEmpty, true⟩)
      else if UInt64.size ≤ magnitude then
        (.ok (.ofNat (UInt64.size - 1)), ⟨rest, rest.isEmpty, true⟩)
      else (.ok (wrapped sign magnitude), ⟨rest, rest.isEmpty, false⟩)

/-! ### What extractions take -/

variable {i j : Istream} {gap word digits rest : List Char}

/-- No extraction has failed yet, and at most the end was seen. -/
def Ready (i : Istream) : Prop := i.fail = false ∧ (i.eof = true → i.rest = [])

/-- A new stream is ready. -/
theorem ready_ofString (s : String) : (ofString s).Ready := ⟨rfl, by simp [ofString]⟩

/-- After an extraction that did not fail. -/
theorem ready_rest (rest : List Char) : Ready ⟨rest, rest.isEmpty, false⟩ :=
  ⟨rfl, by simp⟩

/-- A stream that failed stays as it is. -/
theorem sentry_failed (h : i.fail = true) : i.sentry = (false, i) := by
  obtain ⟨rest, eof, fail⟩ := i
  cases h
  simp [sentry, good]

/-- There is nothing to extract from a blank text. -/
theorem sentry_blank (hready : i.Ready) (h : Blank i.rest) :
    i.sentry = (false, ⟨[], true, true⟩) := by
  obtain ⟨rest, eof, fail⟩ := i
  obtain ⟨hfail, heof⟩ := hready
  cases hfail
  cases eof with
  | true =>
    cases heof rfl
    rfl
  | false =>
    have hskip : rest.dropWhile isSpace = [] := List.dropWhile_eq_nil_iff.mpr h
    simp [sentry, good, hskip]

/-- Whitespace in front of a word is skipped. -/
theorem sentry_word (hready : i.Ready) (hrest : i.rest = gap ++ (word ++ rest)) (hgap : Blank gap)
    (hword : Word word) : i.sentry = (true, ⟨word ++ rest, false, false⟩) := by
  obtain ⟨text, eof, fail⟩ := i
  obtain ⟨hfail, heof⟩ := hready
  obtain ⟨c, cs, rfl, hc⟩ := hword.eq_cons
  cases hfail
  cases hrest
  cases eof with
  | true => simpa using heof rfl
  | false =>
    have hskip : (gap ++ c :: (cs ++ rest)).dropWhile isSpace = c :: (cs ++ rest) :=
      dropWhile_run hgap (by simpa using hc)
    simp [sentry, good, hskip]

/-- Nothing is extracted from a stream that failed. -/
theorem exec_extractString_failed (h : i.fail = true) (s : String) :
    (extractString s : Fallible ε Istream String).exec i = (.ok s, i) := by
  rw [extractString, Fallible.exec_ofFn, sentry_failed h]

/-- No word is extracted from a blank text. -/
theorem exec_extractString_blank (hready : i.Ready) (h : Blank i.rest) (s : String) :
    (extractString s : Fallible ε Istream String).exec i = (.ok s, ⟨[], true, true⟩) := by
  rw [extractString, Fallible.exec_ofFn, sentry_blank hready h]

/-- The first word of a text is extracted. -/
theorem exec_extractString_word (ε : Type) (hready : i.Ready)
    (hrest : i.rest = gap ++ (word ++ rest)) (hgap : Blank gap) (hword : Word word)
    (hparted : Parted rest) (s : String) :
    (extractString s : Fallible ε Istream String).exec i =
      (.ok (String.ofList word), ⟨rest, rest.isEmpty, false⟩) := by
  have hrun : ∀ d ∈ word, (!isSpace d) = true := by simpa using hword.2
  have hend : ∀ d ∈ rest.head?, (!isSpace d) = false := by simpa [Parted] using hparted
  have hempty : word.isEmpty = false := by simpa using hword.1
  rw [extractString, Fallible.exec_ofFn, sentry_word hready hrest hgap hword]
  simp only [takeWhile_run hrun hend, dropWhile_run hrun hend, hempty]

/-- The extraction of a word fails, or takes the first one. -/
theorem extractString_cases (ε : Type) (hready : i.Ready) (s : String) :
    Blank i.rest ∧ (extractString s : Fallible ε Istream String).exec i =
      (.ok s, ⟨[], true, true⟩) ∨
    ∃ gap word rest, i.rest = gap ++ (word ++ rest) ∧ Blank gap ∧ Word word ∧ Parted rest ∧
      (extractString s : Fallible ε Istream String).exec i =
        (.ok (String.ofList word), ⟨rest, rest.isEmpty, false⟩) := by
  rcases blank_or_word i.rest with hblank | ⟨gap, word, rest, hrest, hgap, hword, hparted⟩
  · exact .inl ⟨hblank, exec_extractString_blank hready hblank s⟩
  · exact .inr ⟨gap, word, rest, hrest, hgap, hword, hparted,
      exec_extractString_word ε hready hrest hgap hword hparted s⟩

private theorem takeSign_numeral (sign : Sign) (hdigits : Numeral digits) :
    takeSign (sign.text ++ (digits ++ rest)) = (sign, digits ++ rest) := by
  cases sign with
  | plus | minus => rfl
  | none =>
    obtain ⟨hne, hall⟩ := hdigits
    obtain ⟨c, cs, rfl⟩ := List.exists_cons_of_ne_nil hne
    have hc := hall c (List.mem_cons_self ..)
    change takeSign (c :: (cs ++ rest)) = (.none, c :: (cs ++ rest))
    unfold takeSign
    split
    next heq =>
      cases heq
      exact absurd hc (by decide)
    next heq =>
      cases heq
      exact absurd hc (by decide)
    next => rfl

private theorem takeSign_text (text : List Char) :
    text = (takeSign text).1.text ++ (takeSign text).2 := by
  unfold takeSign
  split <;> rfl

/-- A numeral with its sign is a word. -/
theorem word_numeral (sign : Sign) (hdigits : Numeral digits) : Word (sign.text ++ digits) := by
  refine ⟨by simp [hdigits.1], fun c hc => ?_⟩
  rcases List.mem_append.mp hc with hsign | hdigit
  · cases sign with
    | none => cases hsign
    | plus | minus =>
      cases List.mem_singleton.mp hsign
      decide
  · exact not_isSpace_of_isDigit (hdigits.2 c hdigit)

/-- No numeral is extracted from a stream that failed. -/
theorem exec_extractUInt64_failed (h : i.fail = true) (n : UInt64) :
    (extractUInt64 n : Fallible ε Istream UInt64).exec i = (.ok n, i) := by
  rw [extractUInt64, Fallible.exec_ofFn, sentry_failed h]

/-- A numeral is extracted with its sign, as far as it goes, if its value fits. -/
theorem exec_extractUInt64_numeral (ε : Type) (sign : Sign) (hready : i.Ready)
    (hrest : i.rest = gap ++ (sign.text ++ (digits ++ rest))) (hgap : Blank gap)
    (hdigits : Numeral digits) (hend : ∀ c ∈ rest.head?, c.isDigit = false)
    (hsmall : Nat.ofDigitChars 10 digits 0 < UInt64.size) (n : UInt64) :
    (extractUInt64 n : Fallible ε Istream UInt64).exec i =
      (.ok (wrapped sign (Nat.ofDigitChars 10 digits 0)), ⟨rest, rest.isEmpty, false⟩) := by
  have hsentry : i.sentry = (true, ⟨sign.text ++ (digits ++ rest), false, false⟩) := by
    rw [← List.append_assoc sign.text] at hrest ⊢
    exact sentry_word hready hrest hgap (word_numeral sign hdigits)
  rw [extractUInt64, Fallible.exec_ofFn, hsentry]
  simp only [takeSign_numeral sign hdigits, takeWhile_run hdigits.2 hend,
    dropWhile_run hdigits.2 hend, if_neg hdigits.1, if_neg (Nat.not_le.mpr hsmall)]

/-- The extraction of a numeral fails, or takes one with its sign. -/
theorem extractUInt64_cases (ε : Type) (hready : i.Ready) (n : UInt64) :
    (∃ m j, (extractUInt64 n : Fallible ε Istream UInt64).exec i = (.ok m, j) ∧ j.fail = true) ∨
    ∃ gap sign digits rest, i.rest = gap ++ (sign.text ++ (digits ++ rest)) ∧ Blank gap ∧
      Numeral digits ∧ (∀ c ∈ rest.head?, c.isDigit = false) ∧
      Nat.ofDigitChars 10 digits 0 < UInt64.size ∧
      (extractUInt64 n : Fallible ε Istream UInt64).exec i =
        (.ok (wrapped sign (Nat.ofDigitChars 10 digits 0)), ⟨rest, rest.isEmpty, false⟩) := by
  rcases blank_or_word i.rest with hblank | ⟨gap, word, tail, hrest, hgap, hword, -⟩
  · left
    refine ⟨n, ⟨[], true, true⟩, ?_, rfl⟩
    rw [extractUInt64, Fallible.exec_ofFn, sentry_blank hready hblank]
  · obtain ⟨digits, rest, hunsigned, hdigits, hend⟩ :=
      exists_run Char.isDigit (takeSign (word ++ tail)).2
    have htext : word ++ tail = (takeSign (word ++ tail)).1.text ++ (digits ++ rest) := by
      rw [← hunsigned]
      exact takeSign_text _
    by_cases hvalue : digits ≠ [] ∧ Nat.ofDigitChars 10 digits 0 < UInt64.size
    · right
      rw [htext] at hrest
      exact ⟨gap, _, digits, rest, hrest, hgap, ⟨hvalue.1, hdigits⟩, hend, hvalue.2,
        exec_extractUInt64_numeral ε _ hready hrest hgap ⟨hvalue.1, hdigits⟩ hend hvalue.2 n⟩
    · left
      rw [extractUInt64, Fallible.exec_ofFn, sentry_word hready hrest hgap hword]
      simp only [hunsigned, takeWhile_run hdigits hend, dropWhile_run hdigits hend]
      split
      · exact ⟨_, _, rfl, rfl⟩
      next hne =>
        rw [if_pos (Nat.not_lt.mp fun hsmall => hvalue ⟨hne, hsmall⟩)]
        exact ⟨_, _, rfl, rfl⟩

/-! ### Numbers of other types -/

/-- `operator>>` for an integer type, given the value of a numeral with its sign and its magnitude,
or, where there is none, the bound of the type that is extracted in its place. -/
def extractNumber {α : Type} (zero : α) (value : Sign → Nat → Except α α) (n : α) :
    Fallible ε Istream α :=
  ofFn fun i =>
    match i.sentry with
    | (false, i) => (.ok n, i)
    | (true, i) =>
      let (sign, unsigned) := takeSign i.rest
      let digits := unsigned.takeWhile Char.isDigit
      let rest := unsigned.dropWhile Char.isDigit
      if digits = [] then (.ok zero, ⟨rest, rest.isEmpty, true⟩)
      else
        match value sign (Nat.ofDigitChars 10 digits 0) with
        | .error bound => (.ok bound, ⟨rest, rest.isEmpty, true⟩)
        | .ok value => (.ok value, ⟨rest, rest.isEmpty, false⟩)

/-- The value of a numeral for an unsigned type, which wraps around under a minus sign. -/
def valueUInt32 (sign : Sign) (magnitude : Nat) : Except UInt32 UInt32 :=
  if UInt32.size ≤ magnitude then .error (.ofNat (UInt32.size - 1))
  else
    match sign with
    | .none | .plus => .ok (.ofNat magnitude)
    | .minus => .ok (-.ofNat magnitude)

/-- The value of a numeral. -/
def signed (sign : Sign) (magnitude : Nat) : Int :=
  match sign with
  | .none | .plus => magnitude
  | .minus => -magnitude

/-- The value of a numeral for a signed type. -/
def valueInt32 (sign : Sign) (magnitude : Nat) : Except Int32 Int32 :=
  if signed sign magnitude < Int32.minValue.toInt then .error Int32.minValue
  else if Int32.maxValue.toInt < signed sign magnitude then .error Int32.maxValue
  else .ok (.ofInt (signed sign magnitude))

/-- `operator>>(std::istream&, unsigned int&)` -/
def extractUInt32 (n : UInt32) : Fallible ε Istream UInt32 := extractNumber 0 valueUInt32 n

/-- `operator>>(std::istream&, int&)` -/
def extractInt32 (n : Int32) : Fallible ε Istream Int32 := extractNumber 0 valueInt32 n

/-- A numeral is extracted with its sign, as far as it goes, if it has a value. -/
theorem exec_extractNumber (ε : Type) {α : Type} {zero v : α} {value : Sign → Nat → Except α α}
    (sign : Sign) (hready : i.Ready) (hrest : i.rest = gap ++ (sign.text ++ (digits ++ rest)))
    (hgap : Blank gap) (hdigits : Numeral digits) (hend : ∀ c ∈ rest.head?, c.isDigit = false)
    (hvalue : value sign (Nat.ofDigitChars 10 digits 0) = .ok v) (n : α) :
    (extractNumber zero value n : Fallible ε Istream α).exec i =
      (.ok v, ⟨rest, rest.isEmpty, false⟩) := by
  have hsentry : i.sentry = (true, ⟨sign.text ++ (digits ++ rest), false, false⟩) := by
    rw [← List.append_assoc sign.text] at hrest ⊢
    exact sentry_word hready hrest hgap (word_numeral sign hdigits)
  rw [extractNumber, Fallible.exec_ofFn, hsentry]
  simp only [takeSign_numeral sign hdigits, takeWhile_run hdigits.2 hend,
    dropWhile_run hdigits.2 hend, if_neg hdigits.1, hvalue]

end Istream
end TrustStore.Base
