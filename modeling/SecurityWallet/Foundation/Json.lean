import Mathlib

/-!
# JSON trees and their text

The trees a JSON text stands for, a writer with an arbitrary layout and a reader. The reader undoes
the writer on every tree and at every layout, so a file or a message may be written compact or
indented and still be read back as the tree it came from.
-/

namespace Foundation

/-- A JSON tree. A number is an integer or a decimal `mantissa * 10 ^ exponent`. -/
inductive Json where
  | null
  | bool (value : Bool)
  | int (value : Int)
  | real (mantissa exponent : Int)
  | str (text : String)
  | arr (elements : List Json)
  | obj (members : List (String × Json))
deriving Inhabited, Repr

namespace Json

def isBlank (c : Char) : Bool := c = ' ' || c = '\n' || c = '\t' || c = '\r'

/-- The white space a writer puts between the tokens at each depth. -/
structure Layout where
  gap : Nat → List Char
  blank_of_mem : ∀ depth, ∀ c ∈ gap depth, isBlank c = true

def Layout.compact : Layout where
  gap _ := []
  blank_of_mem := by simp

def Layout.indented : Layout where
  gap depth := '\n' :: List.replicate depth '\t'
  blank_of_mem := by
    intro depth c hc
    rcases List.mem_cons.1 hc with rfl | hc
    · rfl
    · rw [List.eq_of_mem_replicate hc]
      rfl

/-! ### Writing -/

def hexDigit (n : Nat) : Char := "0123456789abcdef".toList.getD n '0'

def writeChar (c : Char) : List Char :=
  if c = '"' then ['\\', '"']
  else if c = '\\' then ['\\', '\\']
  else if c = '\n' then ['\\', 'n']
  else if c = '\t' then ['\\', 't']
  else if c = '\r' then ['\\', 'r']
  else if c.toNat < 32 then ['\\', 'u', '0', '0', hexDigit (c.toNat / 16), hexDigit (c.toNat % 16)]
  else [c]

def writeString (s : String) : List Char :=
  '"' :: (s.toList.flatMap writeChar ++ ['"'])

def writeInt : Int → List Char
  | .ofNat n => Nat.toDigits 10 n
  | .negSucc n => '-' :: Nat.toDigits 10 (n + 1)

mutual

def write (layout : Layout) (depth : Nat) : Json → List Char
  | .null => ['n', 'u', 'l', 'l']
  | .bool true => ['t', 'r', 'u', 'e']
  | .bool false => ['f', 'a', 'l', 's', 'e']
  | .int n => writeInt n
  | .real mantissa exponent => writeInt mantissa ++ 'e' :: writeInt exponent
  | .str s => writeString s
  | .arr elements => '[' :: writeElements layout depth elements
  | .obj members => '{' :: writeMembers layout depth members

def writeElements (layout : Layout) (depth : Nat) : List Json → List Char
  | [] => [']']
  | [v] => layout.gap (depth + 1) ++ write layout (depth + 1) v ++ layout.gap depth ++ [']']
  | v :: w :: vs =>
      layout.gap (depth + 1) ++ write layout (depth + 1) v ++
        ',' :: writeElements layout depth (w :: vs)

def writeMembers (layout : Layout) (depth : Nat) : List (String × Json) → List Char
  | [] => ['}']
  | [(name, v)] =>
      layout.gap (depth + 1) ++ writeString name ++ ':' :: write layout (depth + 1) v ++
        layout.gap depth ++ ['}']
  | (name, v) :: member :: members =>
      layout.gap (depth + 1) ++ writeString name ++ ':' :: write layout (depth + 1) v ++
        ',' :: writeMembers layout depth (member :: members)

end

/-- The text of a tree. -/
def print (layout : Layout) (v : Json) : String := String.ofList (write layout 0 v)

/-! ### Reading -/

def hexValue (c : Char) : Option Nat :=
  if c.isDigit then some (c.toNat - 48)
  else if 'a' ≤ c ∧ c ≤ 'f' then some (c.toNat - 87)
  else if 'A' ≤ c ∧ c ≤ 'F' then some (c.toNat - 55)
  else none

def hexChar (a b c d : Char) : Option Char := do
  let a ← hexValue a
  let b ← hexValue b
  let c ← hexValue c
  let d ← hexValue d
  return Char.ofNat (((a * 16 + b) * 16 + c) * 16 + d)

/-- The characters a backslash followed by `c` may stand for. -/
def unescape (c : Char) : Option Char :=
  if c = '"' ∨ c = '\\' ∨ c = '/' then some c
  else if c = 'n' then some '\n'
  else if c = 't' then some '\t'
  else if c = 'r' then some '\r'
  else if c = 'b' then some '\x08'
  else if c = 'f' then some '\x0c'
  else none

/-- Reads up to the closing quote of a string whose opening quote was read. -/
def readString : List Char → Option (List Char × List Char)
  | '"' :: rest => some ([], rest)
  | '\\' :: 'u' :: a :: b :: c :: d :: rest => do
      let char ← hexChar a b c d
      let (text, rest) ← readString rest
      return (char :: text, rest)
  | '\\' :: c :: rest => do
      let char ← unescape c
      let (text, rest) ← readString rest
      return (char :: text, rest)
  | c :: rest => do
      let (text, rest) ← readString rest
      return (c :: text, rest)
  | [] => none

def readNat (cs : List Char) : Option (Nat × List Char) :=
  match cs.span Char.isDigit with
  | ([], _) => none
  | (digits, rest) => some (Nat.ofDigitChars 10 digits 0, rest)

def readInt : List Char → Option (Int × List Char)
  | '-' :: rest => (readNat rest).map fun (n, rest) => (-(n : Int), rest)
  | cs => (readNat cs).map fun (n, rest) => ((n : Int), rest)

def readNumber (cs : List Char) : Option (Json × List Char) := do
  let (mantissa, rest) ← readInt cs
  match rest with
  | 'e' :: rest => do
      let (exponent, rest) ← readInt rest
      return (.real mantissa exponent, rest)
  | rest => return (.int mantissa, rest)

def skipBlank (cs : List Char) : List Char := cs.dropWhile isBlank

-- The fuel bounds the nesting and the number of elements; the length of the text is enough.
mutual

def readValue : Nat → List Char → Option (Json × List Char)
  | 0, _ => none
  | fuel + 1, cs =>
      match skipBlank cs with
      | 'n' :: 'u' :: 'l' :: 'l' :: rest => some (.null, rest)
      | 't' :: 'r' :: 'u' :: 'e' :: rest => some (.bool true, rest)
      | 'f' :: 'a' :: 'l' :: 's' :: 'e' :: rest => some (.bool false, rest)
      | '"' :: rest => (readString rest).map fun (text, rest) => (.str (String.ofList text), rest)
      | '[' :: rest =>
          match skipBlank rest with
          | ']' :: rest => some (.arr [], rest)
          | rest => (readElements fuel rest).map fun (elements, rest) => (.arr elements, rest)
      | '{' :: rest =>
          match skipBlank rest with
          | '}' :: rest => some (.obj [], rest)
          | rest => (readMembers fuel rest).map fun (members, rest) => (.obj members, rest)
      | cs => readNumber cs

def readElements : Nat → List Char → Option (List Json × List Char)
  | 0, _ => none
  | fuel + 1, cs => do
      let (v, rest) ← readValue fuel cs
      match skipBlank rest with
      | ',' :: rest => do
          let (vs, rest) ← readElements fuel rest
          return (v :: vs, rest)
      | ']' :: rest => return ([v], rest)
      | _ => none

def readMembers : Nat → List Char → Option (List (String × Json) × List Char)
  | 0, _ => none
  | fuel + 1, cs =>
      match skipBlank cs with
      | '"' :: rest => do
          let (name, rest) ← readString rest
          match skipBlank rest with
          | ':' :: rest => do
              let (v, rest) ← readValue fuel rest
              match skipBlank rest with
              | ',' :: rest => do
                  let (members, rest) ← readMembers fuel rest
                  return ((String.ofList name, v) :: members, rest)
              | '}' :: rest => return ([(String.ofList name, v)], rest)
              | _ => none
          | _ => none
      | _ => none

end

/-- The tree of a text: one value, with white space around it and nothing else. -/
def parse (text : String) : Option Json :=
  match readValue text.length text.toList with
  | some (v, rest) => if skipBlank rest = [] then some v else none
  | none => none

/-! ### White space -/

theorem skipBlank_append {blank : List Char} (hblank : ∀ c ∈ blank, isBlank c = true)
    (cs : List Char) : skipBlank (blank ++ cs) = skipBlank cs := by
  induction blank with
  | nil => rfl
  | cons c blank ih =>
      have hc : isBlank c = true := hblank c List.mem_cons_self
      simp only [skipBlank, List.cons_append, List.dropWhile_cons, hc, if_true]
      exact ih fun c hc => hblank c (List.mem_cons_of_mem _ hc)

theorem skipBlank_gap (layout : Layout) (depth : Nat) (cs : List Char) :
    skipBlank (layout.gap depth ++ cs) = skipBlank cs :=
  skipBlank_append (layout.blank_of_mem depth) cs

theorem skipBlank_cons {c : Char} (hc : isBlank c = false) (cs : List Char) :
    skipBlank (c :: cs) = c :: cs := by
  simp [skipBlank, hc]

/-! ### Strings -/

theorem hexValue_hexDigit : ∀ n < 16, hexValue (hexDigit n) = some n := by
  decide

theorem readString_writeChar (c : Char) (rest : List Char) :
    readString (writeChar c ++ rest) =
      (readString rest).map fun (text, rest) => (c :: text, rest) := by
  unfold writeChar
  split_ifs with hquote hslash hnewline htab hreturn hcontrol
  · subst hquote
    simp [readString, unescape, Option.map_eq_bind]
  · subst hslash
    simp [readString, unescape, Option.map_eq_bind]
  · subst hnewline
    simp [readString, unescape, Option.map_eq_bind]
  · subst htab
    simp [readString, unescape, Option.map_eq_bind]
  · subst hreturn
    simp [readString, unescape, Option.map_eq_bind]
  · have hhigh := hexValue_hexDigit (c.toNat / 16) (by omega)
    have hlow := hexValue_hexDigit (c.toNat % 16) (by omega)
    have hzero : hexValue '0' = some 0 := by decide
    have hchar : hexChar '0' '0' (hexDigit (c.toNat / 16)) (hexDigit (c.toNat % 16)) = some c := by
      simp only [hexChar, hzero, hhigh, hlow, bind, Option.bind, pure]
      rw [show ((0 * 16 + 0) * 16 + c.toNat / 16) * 16 + c.toNat % 16 = c.toNat by omega,
        Char.ofNat_toNat]
    simp only [List.cons_append, List.nil_append]
    rw [readString, hchar]
    simp [Option.map_eq_bind]
  · simp only [List.cons_append, List.nil_append]
    rw [readString.eq_def]
    split <;> simp_all [Option.map_eq_bind]

theorem readString_writeString (s : String) (rest : List Char) :
    readString (s.toList.flatMap writeChar ++ '"' :: rest) = some (s.toList, rest) := by
  induction s.toList with
  | nil => simp [readString]
  | cons c cs ih =>
      rw [List.flatMap_cons, List.append_assoc, readString_writeChar, ih]
      rfl

/-! ### Numbers -/

/-- No digit and no exponent starts here, so a number written just before ends here. -/
def EndsNumber (rest : List Char) : Prop := ∀ c ∈ rest.head?, c.isDigit = false ∧ c ≠ 'e'

theorem endsNumber_cons {c : Char} (hdigit : c.isDigit = false) (hexp : c ≠ 'e')
    (rest : List Char) : EndsNumber (c :: rest) := by
  intro d hd
  simp only [List.head?_cons, Option.mem_def, Option.some.injEq] at hd
  exact hd ▸ ⟨hdigit, hexp⟩

theorem span_isDigit_append {digits rest : List Char} (hdigits : ∀ c ∈ digits, c.isDigit = true)
    (hrest : ∀ c ∈ rest.head?, c.isDigit = false) :
    (digits ++ rest).span Char.isDigit = (digits, rest) := by
  have htake : (digits ++ rest).takeWhile Char.isDigit = digits := by
    rw [List.takeWhile_append_of_pos hdigits]
    cases rest with
    | nil => simp
    | cons c rest => simp [hrest c rfl]
  have hdrop : (digits ++ rest).dropWhile Char.isDigit = rest := by
    rw [List.dropWhile_append_of_pos hdigits]
    cases rest with
    | nil => rfl
    | cons c rest => simp [hrest c rfl]
  rw [List.span_eq_takeWhile_dropWhile, htake, hdrop]

theorem readNat_toDigits (n : Nat) {rest : List Char}
    (hrest : ∀ c ∈ rest.head?, c.isDigit = false) :
    readNat (Nat.toDigits 10 n ++ rest) = some (n, rest) := by
  have hspan := span_isDigit_append
    (fun c hc => Nat.isDigit_of_mem_toDigits (b := 10) (n := n) (by decide) (by decide) hc) hrest
  unfold readNat
  rw [hspan]
  split
  · rename_i hnil
    exact absurd (congrArg Prod.fst hnil) Nat.toDigits_ne_nil
  · rename_i digits rest' hne hpair
    obtain ⟨rfl, rfl⟩ := Prod.mk.inj hpair
    rw [Nat.ofDigitChars_ten_toDigits]

theorem readInt_writeInt (n : Int) {rest : List Char}
    (hrest : ∀ c ∈ rest.head?, c.isDigit = false) :
    readInt (writeInt n ++ rest) = some (n, rest) := by
  cases n with
  | ofNat n =>
      have hread := readNat_toDigits n hrest
      rw [writeInt]
      unfold readInt
      split
      · rename_i tail htail
        have hmem : '-' ∈ Nat.toDigits 10 n := by
          cases hdigits : Nat.toDigits 10 n with
          | nil => exact absurd hdigits Nat.toDigits_ne_nil
          | cons d ds =>
              rw [hdigits] at htail
              rw [List.cons_append] at htail
              exact (List.cons.inj htail).1 ▸ List.mem_cons_self
        have := Nat.isDigit_of_mem_toDigits (by decide) (by decide) hmem
        exact absurd this (by decide)
      · rw [hread]
        rfl
  | negSucc n =>
      simp only [writeInt, List.cons_append, readInt, readNat_toDigits (n + 1) hrest]
      rfl

theorem readNumber_writeInt (n : Int) {rest : List Char} (hrest : EndsNumber rest) :
    readNumber (writeInt n ++ rest) = some (.int n, rest) := by
  rw [readNumber, readInt_writeInt n fun c hc => (hrest c hc).1]
  simp only [bind, Option.bind]
  split
  · rename_i tail
    exact absurd rfl (hrest 'e' rfl).2
  · rfl

theorem readNumber_writeReal (mantissa exponent : Int) {rest : List Char}
    (hrest : EndsNumber rest) :
    readNumber (writeInt mantissa ++ 'e' :: writeInt exponent ++ rest) =
      some (.real mantissa exponent, rest) := by
  have hexp : ∀ c ∈ ('e' :: (writeInt exponent ++ rest)).head?, c.isDigit = false := by
    intro c hc
    simp only [List.head?_cons, Option.mem_def, Option.some.injEq] at hc
    subst hc
    decide
  rw [readNumber, List.append_assoc, List.cons_append, readInt_writeInt mantissa hexp]
  simp only [bind, Option.bind]
  rw [readInt_writeInt exponent fun c hc => (hrest c hc).1]
  rfl

/-! ### The first character of a value -/

theorem writeInt_head (n : Int) :
    ∃ c cs, writeInt n = c :: cs ∧ (c = '-' ∨ c.isDigit = true) := by
  cases n with
  | ofNat n =>
      cases hdigits : Nat.toDigits 10 n with
      | nil => exact absurd hdigits Nat.toDigits_ne_nil
      | cons d ds =>
          refine ⟨d, ds, hdigits, Or.inr ?_⟩
          exact Nat.isDigit_of_mem_toDigits (b := 10) (n := n) (by decide) (by decide)
            (hdigits ▸ List.mem_cons_self)
  | negSucc n => exact ⟨'-', _, rfl, Or.inl rfl⟩

/-- What a value may start with: never white space, and never the bracket that closes an array. -/
def StartsValue (c : Char) : Prop := isBlank c = false ∧ c ≠ ']'

theorem startsValue_of_digit {c : Char} (hc : c = '-' ∨ c.isDigit = true) : StartsValue c := by
  rcases hc with rfl | hc
  · exact ⟨by decide, by decide⟩
  · constructor
    · by_contra hblank
      simp only [isBlank, Bool.not_eq_false, Bool.or_eq_true, decide_eq_true_eq] at hblank
      rcases hblank with ((rfl | rfl) | rfl) | rfl <;> exact absurd hc (by decide)
    · rintro rfl
      exact absurd hc (by decide)

theorem write_head (layout : Layout) (depth : Nat) (v : Json) :
    ∃ c cs, write layout depth v = c :: cs ∧ StartsValue c := by
  cases v with
  | null => exact ⟨_, _, rfl, by decide, by decide⟩
  | bool value => cases value <;> exact ⟨_, _, rfl, by decide, by decide⟩
  | int n =>
      obtain ⟨c, cs, hwrite, hc⟩ := writeInt_head n
      exact ⟨c, cs, hwrite, startsValue_of_digit hc⟩
  | real mantissa exponent =>
      obtain ⟨c, cs, hwrite, hc⟩ := writeInt_head mantissa
      exact ⟨c, _, by rw [write, hwrite]; rfl, startsValue_of_digit hc⟩
  | str s => exact ⟨_, _, rfl, by decide, by decide⟩
  | arr elements => exact ⟨_, _, rfl, by decide, by decide⟩
  | obj members => exact ⟨_, _, rfl, by decide, by decide⟩

/-! ### Reading back a value -/

theorem readValue_blank {blank : List Char} (hblank : ∀ c ∈ blank, isBlank c = true)
    (fuel : Nat) (cs : List Char) : readValue fuel (blank ++ cs) = readValue fuel cs := by
  cases fuel with
  | zero => simp only [readValue]
  | succ fuel => simp only [readValue, skipBlank_append hblank]

theorem readElements_blank {blank : List Char} (hblank : ∀ c ∈ blank, isBlank c = true)
    (fuel : Nat) (cs : List Char) : readElements fuel (blank ++ cs) = readElements fuel cs := by
  cases fuel with
  | zero => simp only [readElements]
  | succ fuel => simp only [readElements, readValue_blank hblank]

theorem readMembers_blank {blank : List Char} (hblank : ∀ c ∈ blank, isBlank c = true)
    (fuel : Nat) (cs : List Char) : readMembers fuel (blank ++ cs) = readMembers fuel cs := by
  cases fuel with
  | zero => simp only [readMembers]
  | succ fuel => simp only [readMembers, skipBlank_append hblank]

theorem readValue_number {c : Char} (hc : c = '-' ∨ c.isDigit = true) (fuel : Nat)
    (cs : List Char) : readValue (fuel + 1) (c :: cs) = readNumber (c :: cs) := by
  rw [readValue.eq_def]
  simp only [skipBlank_cons (startsValue_of_digit hc).1]
  have hne : ∀ d : Char, d ≠ '-' → d.isDigit = false → c ≠ d := by
    rintro d hminus hdigit rfl
    rcases hc with rfl | hc
    · exact hminus rfl
    · rw [hdigit] at hc
      exact absurd hc (by decide)
  split
  · rename_i heq
    exact absurd (List.cons.inj heq).1 (hne _ (by decide) (by decide))
  · rename_i heq
    exact absurd (List.cons.inj heq).1 (hne _ (by decide) (by decide))
  · rename_i heq
    exact absurd (List.cons.inj heq).1 (hne _ (by decide) (by decide))
  · rename_i heq
    exact absurd (List.cons.inj heq).1 (hne _ (by decide) (by decide))
  · rename_i heq
    exact absurd (List.cons.inj heq).1 (hne _ (by decide) (by decide))
  · rename_i heq
    exact absurd (List.cons.inj heq).1 (hne _ (by decide) (by decide))
  · rfl

theorem readValue_elements {layout : Layout} {depth fuel : Nat} {v : Json} {vs : List Json}
    {cs rest : List Char}
    (hread : readElements fuel (layout.gap (depth + 1) ++ write layout (depth + 1) v ++ cs) =
      some (v :: vs, rest)) :
    readValue (fuel + 1) ('[' :: (layout.gap (depth + 1) ++ write layout (depth + 1) v ++ cs)) =
      some (.arr (v :: vs), rest) := by
  obtain ⟨c, tail, hwrite, hc⟩ := write_head layout (depth + 1) v
  have hskip : skipBlank (layout.gap (depth + 1) ++ write layout (depth + 1) v ++ cs) =
      c :: (tail ++ cs) := by
    rw [List.append_assoc, skipBlank_gap, hwrite, List.cons_append, skipBlank_cons hc.1]
  have hskipped : readElements fuel (c :: (tail ++ cs)) = some (v :: vs, rest) := by
    rw [List.append_assoc, readElements_blank (layout.blank_of_mem _), hwrite] at hread
    exact hread
  rw [readValue.eq_def]
  simp only [skipBlank_cons (show isBlank '[' = false by decide), hskip]
  split
  · rename_i heq
    exact absurd (List.cons.inj heq).1 hc.2
  · rw [hskipped]
    rfl

theorem readValue_members {blank : List Char} (hblank : ∀ c ∈ blank, isBlank c = true)
    {fuel : Nat} {name : String} {members : List (String × Json)} {cs rest : List Char}
    (hread : readMembers fuel (blank ++ writeString name ++ cs) = some (members, rest)) :
    readValue (fuel + 1) ('{' :: (blank ++ writeString name ++ cs)) =
      some (.obj members, rest) := by
  have hskip : skipBlank (blank ++ writeString name ++ cs) = writeString name ++ cs := by
    rw [List.append_assoc, skipBlank_append hblank, writeString, List.cons_append,
      skipBlank_cons (by decide)]
  rw [List.append_assoc, readMembers_blank hblank] at hread
  rw [readValue.eq_def]
  simp only [skipBlank_cons (show isBlank '{' = false by decide), hskip]
  split
  · rename_i heq
    exact absurd (List.cons.inj heq).1 (by decide)
  · rw [hread]
    rfl

/-- The first member of an object is read up to the separator behind its value. -/
theorem readMembers_step {blank : List Char} (hblank : ∀ c ∈ blank, isBlank c = true)
    {fuel : Nat} (name : String) {v : Json} {cs rest : List Char}
    (hvalue : readValue fuel cs = some (v, rest)) :
    readMembers (fuel + 1) (blank ++ writeString name ++ ':' :: cs) =
      match skipBlank rest with
      | ',' :: rest => (readMembers fuel rest).map fun (members, rest) =>
          ((name, v) :: members, rest)
      | '}' :: rest => some ([(name, v)], rest)
      | _ => none := by
  have hname : skipBlank (writeString name ++ ':' :: cs) =
      '"' :: (name.toList.flatMap writeChar ++ '"' :: (':' :: cs)) := by
    rw [writeString, List.cons_append, skipBlank_cons (by decide)]
    simp
  rw [List.append_assoc, readMembers_blank hblank, readMembers.eq_def]
  simp only [hname, readString_writeString, bind, Option.bind, hvalue,
    skipBlank_cons (show isBlank ':' = false by decide), String.ofList_toList]
  split
  · cases readMembers fuel _ <;> rfl
  · rfl
  · rfl

theorem endsNumber_gap (layout : Layout) (depth : Nat) {c : Char} (hdigit : c.isDigit = false)
    (hexp : c ≠ 'e') (rest : List Char) : EndsNumber (layout.gap depth ++ c :: rest) := by
  cases hgap : layout.gap depth with
  | nil => exact endsNumber_cons hdigit hexp rest
  | cons d ds =>
      have hblank : isBlank d = true :=
        layout.blank_of_mem depth d (hgap ▸ List.mem_cons_self)
      simp only [isBlank, Bool.or_eq_true, decide_eq_true_eq] at hblank
      rcases hblank with ((rfl | rfl) | rfl) | rfl <;>
        exact endsNumber_cons (by decide) (by decide) _

-- By recursion on the tree: the three readers undo the three writers, with the length of the
-- text as fuel.
mutual

theorem readValue_write (layout : Layout) (depth : Nat) :
    ∀ (v : Json) (fuel : Nat) (rest : List Char), (write layout depth v).length ≤ fuel →
      EndsNumber rest → readValue fuel (write layout depth v ++ rest) = some (v, rest)
  | .null, fuel, rest, hfuel, _ => by
      obtain ⟨fuel, rfl⟩ : ∃ n, fuel = n + 1 := ⟨fuel - 1, by simp [write] at hfuel; omega⟩
      rfl
  | .bool true, fuel, rest, hfuel, _ => by
      obtain ⟨fuel, rfl⟩ : ∃ n, fuel = n + 1 := ⟨fuel - 1, by simp [write] at hfuel; omega⟩
      rfl
  | .bool false, fuel, rest, hfuel, _ => by
      obtain ⟨fuel, rfl⟩ : ∃ n, fuel = n + 1 := ⟨fuel - 1, by simp [write] at hfuel; omega⟩
      rfl
  | .int n, fuel, rest, hfuel, hrest => by
      obtain ⟨c, cs, hwrite, hc⟩ := writeInt_head n
      rw [write, hwrite, List.length_cons] at hfuel
      obtain ⟨fuel, rfl⟩ : ∃ n, fuel = n + 1 := ⟨fuel - 1, by omega⟩
      rw [write, hwrite, List.cons_append, readValue_number hc, ← List.cons_append, ← hwrite,
        readNumber_writeInt n hrest]
  | .real mantissa exponent, fuel, rest, hfuel, hrest => by
      obtain ⟨c, cs, hwrite, hc⟩ := writeInt_head mantissa
      rw [write, hwrite, List.cons_append, List.length_cons] at hfuel
      obtain ⟨fuel, rfl⟩ : ∃ n, fuel = n + 1 := ⟨fuel - 1, by omega⟩
      rw [write, hwrite, List.cons_append, List.cons_append, readValue_number hc,
        ← List.cons_append, ← List.cons_append, ← hwrite,
        readNumber_writeReal mantissa exponent hrest]
  | .str s, fuel, rest, hfuel, _ => by
      obtain ⟨fuel, rfl⟩ : ∃ n, fuel = n + 1 :=
        ⟨fuel - 1, by simp [write, writeString] at hfuel; omega⟩
      have htext : write layout depth (.str s) ++ rest =
          '"' :: (s.toList.flatMap writeChar ++ '"' :: rest) := by
        simp [write, writeString]
      rw [htext, readValue.eq_def]
      simp only [skipBlank_cons (show isBlank '"' = false by decide), readString_writeString,
        Option.map_some, String.ofList_toList]
  | .arr [], fuel, rest, hfuel, _ => by
      obtain ⟨fuel, rfl⟩ : ∃ n, fuel = n + 1 :=
        ⟨fuel - 1, by simp [write, writeElements] at hfuel; omega⟩
      rfl
  | .arr (v :: vs), fuel, rest, hfuel, _ => by
      rw [write, List.length_cons] at hfuel
      obtain ⟨fuel, rfl⟩ : ∃ n, fuel = n + 1 := ⟨fuel - 1, by omega⟩
      have hread := readElements_write layout depth (v :: vs) (by simp) fuel rest (by omega)
      obtain ⟨cs, htext⟩ : ∃ cs, writeElements layout depth (v :: vs) =
          layout.gap (depth + 1) ++ write layout (depth + 1) v ++ cs := by
        cases vs with
        | nil => exact ⟨_, by rw [writeElements, List.append_assoc]⟩
        | cons w vs => exact ⟨_, by rw [writeElements]⟩
      rw [htext, List.append_assoc _ cs rest] at hread
      rw [write, htext, List.cons_append, List.append_assoc _ cs rest]
      exact readValue_elements hread
  | .obj [], fuel, rest, hfuel, _ => by
      obtain ⟨fuel, rfl⟩ : ∃ n, fuel = n + 1 :=
        ⟨fuel - 1, by simp [write, writeMembers] at hfuel; omega⟩
      rfl
  | .obj ((name, v) :: members), fuel, rest, hfuel, _ => by
      rw [write, List.length_cons] at hfuel
      obtain ⟨fuel, rfl⟩ : ∃ n, fuel = n + 1 := ⟨fuel - 1, by omega⟩
      have hread := readMembers_write layout depth ((name, v) :: members) (by simp) fuel rest
        (by omega)
      obtain ⟨cs, htext⟩ : ∃ cs, writeMembers layout depth ((name, v) :: members) =
          layout.gap (depth + 1) ++ writeString name ++ cs := by
        cases members with
        | nil => exact ⟨_, by rw [writeMembers, List.append_assoc, List.append_assoc]⟩
        | cons member members => exact ⟨_, by rw [writeMembers, List.append_assoc]⟩
      rw [htext, List.append_assoc _ cs rest] at hread
      rw [write, htext, List.cons_append, List.append_assoc _ cs rest]
      exact readValue_members (layout.blank_of_mem _) hread

theorem readElements_write (layout : Layout) (depth : Nat) :
    ∀ (vs : List Json), vs ≠ [] → ∀ (fuel : Nat) (rest : List Char),
      (writeElements layout depth vs).length ≤ fuel →
      readElements fuel (writeElements layout depth vs ++ rest) = some (vs, rest)
  | [], hne, _, _, _ => absurd rfl hne
  | [v], _, fuel, rest, hfuel => by
      simp only [writeElements, List.length_append, List.length_singleton] at hfuel
      obtain ⟨fuel, rfl⟩ : ∃ n, fuel = n + 1 := ⟨fuel - 1, by omega⟩
      have hread := readValue_write layout (depth + 1) v fuel
        (layout.gap depth ++ ']' :: rest) (by omega)
        (endsNumber_gap layout depth (by decide) (by decide) rest)
      have htext : writeElements layout depth [v] ++ rest = layout.gap (depth + 1) ++
          (write layout (depth + 1) v ++ (layout.gap depth ++ ']' :: rest)) := by
        simp [writeElements]
      rw [htext, readElements_blank (layout.blank_of_mem _), readElements.eq_def]
      simp only [hread, bind, Option.bind, skipBlank_gap,
        skipBlank_cons (show isBlank ']' = false by decide)]
      rfl
  | v :: w :: vs, _, fuel, rest, hfuel => by
      simp only [writeElements, List.length_append, List.length_cons] at hfuel
      obtain ⟨fuel, rfl⟩ : ∃ n, fuel = n + 1 := ⟨fuel - 1, by omega⟩
      have hread := readValue_write layout (depth + 1) v fuel
        (',' :: (writeElements layout depth (w :: vs) ++ rest)) (by omega)
        (endsNumber_cons (by decide) (by decide) _)
      have hmore := readElements_write layout depth (w :: vs) (by simp) fuel rest (by omega)
      have htext : writeElements layout depth (v :: w :: vs) ++ rest = layout.gap (depth + 1) ++
          (write layout (depth + 1) v ++
            (',' :: (writeElements layout depth (w :: vs) ++ rest))) := by
        simp [writeElements]
      rw [htext, readElements_blank (layout.blank_of_mem _), readElements.eq_def]
      simp only [hread, bind, Option.bind, skipBlank_cons (show isBlank ',' = false by decide),
        hmore]
      rfl

theorem readMembers_write (layout : Layout) (depth : Nat) :
    ∀ (members : List (String × Json)), members ≠ [] → ∀ (fuel : Nat) (rest : List Char),
      (writeMembers layout depth members).length ≤ fuel →
      readMembers fuel (writeMembers layout depth members ++ rest) = some (members, rest)
  | [], hne, _, _, _ => absurd rfl hne
  | [(name, v)], _, fuel, rest, hfuel => by
      simp only [writeMembers, List.length_append, List.length_cons] at hfuel
      obtain ⟨fuel, rfl⟩ : ∃ n, fuel = n + 1 := ⟨fuel - 1, by omega⟩
      have hread := readValue_write layout (depth + 1) v fuel
        (layout.gap depth ++ '}' :: rest) (by omega)
        (endsNumber_gap layout depth (by decide) (by decide) rest)
      have htext : writeMembers layout depth [(name, v)] ++ rest =
          layout.gap (depth + 1) ++ writeString name ++
            ':' :: (write layout (depth + 1) v ++ (layout.gap depth ++ '}' :: rest)) := by
        simp [writeMembers]
      rw [htext, readMembers_step (layout.blank_of_mem _) name hread, skipBlank_gap,
        skipBlank_cons (by decide)]
      rfl
  | (name, v) :: member :: members, _, fuel, rest, hfuel => by
      simp only [writeMembers, List.length_append, List.length_cons] at hfuel
      obtain ⟨fuel, rfl⟩ : ∃ n, fuel = n + 1 := ⟨fuel - 1, by omega⟩
      have hread := readValue_write layout (depth + 1) v fuel
        (',' :: (writeMembers layout depth (member :: members) ++ rest)) (by omega)
        (endsNumber_cons (by decide) (by decide) _)
      have hmore := readMembers_write layout depth (member :: members) (by simp) fuel rest
        (by omega)
      have htext : writeMembers layout depth ((name, v) :: member :: members) ++ rest =
          layout.gap (depth + 1) ++ writeString name ++
            ':' :: (write layout (depth + 1) v ++
              (',' :: (writeMembers layout depth (member :: members) ++ rest))) := by
        simp [writeMembers]
      rw [htext, readMembers_step (layout.blank_of_mem _) name hread,
        skipBlank_cons (by decide)]
      simp only [hmore, Option.map_some]

end

/-- **Reading undoes writing**, on every tree and at every layout. -/
theorem parse_print (layout : Layout) (v : Json) : parse (print layout v) = some v := by
  have hread := readValue_write layout 0 v (write layout 0 v).length [] le_rfl (by simp [EndsNumber])
  rw [List.append_nil] at hread
  simp only [parse, print, String.length_ofList, String.toList_ofList, hread]
  rfl

end Json

end Foundation
