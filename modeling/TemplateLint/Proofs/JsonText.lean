import TemplateLint.Json.Document
import TemplateLint.Json.Printer

/-!
# What is written is read

The text of a value, on one line or over several, is one whole document, and the document holds the
value as it was: every character of every string, every digit of every integer, items and members in
their order. Within the limits of the reader (127 levels, 64-bit integers) the value of the document is
the value written, with the members of its objects in key order.
-/

namespace TemplateLint.Json

/-! ### Strings -/

theorem hexWord?_hexDigit : ∀ n < 0x20,
    hexWord? '0' '0' (hexDigit (n / 16)) (hexDigit n) = some n := by
  decide

/-- The escape of a character reads as its code point. -/
theorem readString_escapeChar (c : Char) (cs : List Char) :
    readString (escapeChar c ++ cs) =
      (readString cs).map fun (ns, rest) => (c.toNat :: ns, rest) := by
  unfold escapeChar
  split
  iterate 7 (simp only [List.cons_append, List.nil_append, readString]; cases readString cs <;> rfl)
  next hquote hslash _ _ _ _ _ =>
    split
    next hcontrol =>
      simp only [List.cons_append, List.nil_append, readString, hexWord?_hexDigit _ hcontrol]
      cases readString cs <;> rfl
    next hcontrol =>
      simp only [List.cons_append, List.nil_append]
      rw [readString]
      · have hslash' : (c == '\\') = false := beq_eq_false_iff_ne.mpr hslash
        simp [hcontrol, hslash']
      all_goals simp_all

theorem readString_escaped (s rest : List Char) :
    readString (s.flatMap escapeChar ++ '"' :: rest) = some (s.map Char.toNat, rest) := by
  induction s with
  | nil => rfl
  | cons c s ih =>
    rw [List.flatMap_cons, List.append_assoc, readString_escapeChar, ih]
    rfl

theorem isLeading_toNat (c : Char) : isLeading c.toNat = false := by
  have hvalid : c.toNat < 0xd800 ∨ 0xdfff < c.toNat ∧ c.toNat < 0x110000 := c.valid
  simp only [isLeading, Bool.and_eq_false_iff, decide_eq_false_iff_not]
  omega

theorem isTrailing_toNat (c : Char) : isTrailing c.toNat = false := by
  have hvalid : c.toNat < 0xd800 ∨ 0xdfff < c.toNat ∧ c.toNat < 0x110000 := c.valid
  simp only [isTrailing, Bool.and_eq_false_iff, decide_eq_false_iff_not]
  omega

/-- No character is half of a surrogate pair, so nothing is joined. -/
theorem joinSurrogates_toNat (s : List Char) : joinSurrogates (s.map Char.toNat) = some s := by
  induction s with
  | nil => rfl
  | cons c s ih =>
    have hl := isLeading_toNat c
    have ht := isTrailing_toNat c
    cases s with
    | nil => simp [joinSurrogates, hl, ht]
    | cons d s =>
      rw [List.map_cons, List.map_cons, joinSurrogates]
      rw [List.map_cons] at ih
      simp [hl, ht, ih]

theorem ofCodes_toNat (s : String) : Document.ofCodes (s.toList.map Char.toNat) = some s := by
  rw [Document.ofCodes, joinSurrogates_toNat, Option.map_some, String.ofList_toList]

/-! ### Integers -/

/-- Whether a number cannot go on with this text. -/
def endsNumber : List Char → Bool
  | [] => true
  | c :: _ => !(c.isDigit || c == '.' || c == 'e' || c == 'E')

theorem isDigit_eq_false_of_endsNumber {c : Char} {cs : List Char} (h : endsNumber (c :: cs)) :
    c.isDigit = false := by
  simp only [endsNumber, Bool.not_eq_true', Bool.or_eq_false_iff] at h
  exact h.1.1.1

theorem isDigit_of_mem_digits {n : Nat} {c : Char} (h : c ∈ Decimal.digits n) : c.isDigit :=
  Nat.isDigit_of_mem_toDigits (by decide) (by decide) h

theorem exists_digits_eq_cons (n : Nat) : ∃ d ds, Decimal.digits n = d :: ds ∧ d.isDigit := by
  obtain ⟨d, ds, hds⟩ := List.exists_cons_of_ne_nil (Nat.toDigits_ne_nil (n := n) (b := 10))
  have hdigits : Decimal.digits n = d :: ds := hds
  exact ⟨d, ds, hdigits, isDigit_of_mem_digits (hdigits ▸ List.mem_cons_self)⟩

/-- The digits of a positive number do not start with a zero. -/
theorem head_digits_ne_zero (n : Nat) (h : 0 < n) (ds : List Char) :
    Decimal.digits n ≠ '0' :: ds := by
  induction n using Nat.strongRecOn generalizing ds with
  | _ n ih =>
    intro heq
    rw [Decimal.digits] at heq
    by_cases hn : n < 10
    · rw [Nat.toDigits_of_lt_base hn] at heq
      have : ∀ n < 10, 0 < n → n.digitChar ≠ '0' := by decide
      exact this n hn h (List.cons.inj heq).1
    · rw [Nat.toDigits_of_base_le (by decide) (by omega)] at heq
      -- The first digit is that of the number without its last digit.
      obtain ⟨d, ds', hds, -⟩ := exists_digits_eq_cons (n / 10)
      rw [← Decimal.digits, hds] at heq
      obtain rfl : d = '0' := (List.cons.inj heq).1
      exact ih (n / 10) (by omega) (by omega) ds' hds

theorem natOfDigits_digits (n : Nat) : Literal.natOfDigits (Decimal.digits n) = n :=
  Nat.ofDigitChars_toDigits (by decide) (by decide)

theorem readDigits_digits (n : Nat) {rest : List Char} (h : endsNumber rest) :
    readDigits (Decimal.digits n ++ rest) = some (Decimal.digits n, rest) := by
  have hdigits : ∀ c ∈ Decimal.digits n, c.isDigit := fun c hc => isDigit_of_mem_digits hc
  have hrest : rest.takeWhile Char.isDigit = [] ∧ rest.dropWhile Char.isDigit = rest := by
    cases rest with
    | nil => exact ⟨rfl, rfl⟩
    | cons c rest =>
      simp [isDigit_eq_false_of_endsNumber h]
  obtain ⟨d, ds, hds, -⟩ := exists_digits_eq_cons n
  rw [readDigits, List.takeWhile_append_of_pos hdigits, List.dropWhile_append_of_pos hdigits,
    hrest.1, hrest.2, List.append_nil, hds]

theorem readWhole_digits (n : Nat) {rest : List Char} (h : endsNumber rest) :
    readWhole (Decimal.digits n ++ rest) = some (Decimal.digits n, rest) := by
  by_cases hn : n = 0
  · subst hn
    show readWhole ('0' :: rest) = some (['0'], rest)
    cases rest with
    | nil => rfl
    | cons c rest =>
      simp [readWhole, isDigit_eq_false_of_endsNumber h]
  · rw [readWhole, readDigits_digits n h]
    intro cs hcs
    obtain ⟨d, ds, hd, -⟩ := exists_digits_eq_cons n
    rw [hd] at hcs
    obtain rfl : d = '0' := (List.cons.inj hcs).1
    exact head_digits_ne_zero n (by omega) ds hd

/-- The digits of a number read as a literal of these digits. -/
theorem readLiteral_digits (negative : Bool) (n : Nat) {rest : List Char} (h : endsNumber rest) :
    readLiteral negative (Decimal.digits n ++ rest) =
      some (⟨negative, Decimal.digits n, none, none⟩, rest) := by
  have hfraction : readFraction rest = some (none, rest) := by
    unfold readFraction
    split
    · exact absurd h (by simp [endsNumber])
    · rfl
  have hexponent : readExponent rest = some (none, rest) := by
    unfold readExponent
    split
    · exact absurd h (by simp [endsNumber])
    · exact absurd h (by simp [endsNumber])
    · rfl
  simp [readLiteral, readWhole_digits n h, hfraction, hexponent]

/-! ### Layouts -/

/-- Where the text of a value has blanks. -/
structure Layout where
  /-- The blanks in front of an item or of a closing bracket, at a level. -/
  gap : Nat → List Char
  /-- The blanks between a colon and a value. -/
  space : List Char
  gap_blank : ∀ level, ∀ c ∈ gap level, isBlank c
  space_blank : ∀ c ∈ space, isBlank c

namespace Layout

/-- No blanks. -/
def tight : Layout where
  gap _ := []
  space := []
  gap_blank := by simp
  space_blank := by simp

/-- Every item and member on a line of its own. -/
def indented : Layout where
  gap := newline
  space := [' ']
  gap_blank level c h := by
    rcases List.mem_cons.mp h with rfl | h
    · rfl
    · rw [List.eq_of_mem_replicate h]
      rfl
  space_blank := by simp [isBlank]

@[simp] theorem tight_gap (level : Nat) : tight.gap level = [] := rfl

@[simp] theorem tight_space : tight.space = [] := rfl

@[simp] theorem indented_gap (level : Nat) : indented.gap level = newline level := rfl

@[simp] theorem indented_space : indented.space = [' '] := rfl

variable (l : Layout)

mutual

/-- The text of a value. -/
def chars (level : Nat) : Json → List Char
  | .array [] => ['[', ']']
  | .array (j :: js) =>
    '[' :: (l.gap (level + 1) ++ (chars (level + 1) j ++ (itemChars (level + 1) js ++
      (l.gap level ++ [']']))))
  | .object [] => ['\x7b', '\x7d']
  | .object ((k, j) :: ms) =>
    '\x7b' :: (l.gap (level + 1) ++ (stringText k ++ ':' :: (l.space ++ (chars (level + 1) j ++
      (memberChars (level + 1) ms ++ (l.gap level ++ ['\x7d']))))))
  | j => j.compactChars

/-- The items of an array after the first. -/
def itemChars (level : Nat) : List Json → List Char
  | [] => []
  | j :: js => ',' :: (l.gap level ++ (chars level j ++ itemChars level js))

/-- The members of an object after the first. -/
def memberChars (level : Nat) : List (String × Json) → List Char
  | [] => []
  | (k, j) :: ms =>
    ',' :: (l.gap level ++ (stringText k ++ ':' :: (l.space ++ (chars level j ++
      memberChars level ms))))

end

end Layout

mutual

theorem compactChars_eq (level : Nat) : (j : Json) → j.compactChars = Layout.tight.chars level j
  | .null | .bool true | .bool false | .number _ | .string _ | .array [] | .object [] => rfl
  | .array (j :: js) => by
    simp [compactChars, Layout.chars, compactChars_eq (level + 1) j, compactItems_eq (level + 1) js]
  | .object ((k, j) :: ms) => by
    simp [compactChars, Layout.chars, compactChars_eq (level + 1) j,
      compactMembers_eq (level + 1) ms]
termination_by structural j => j

theorem compactItems_eq (level : Nat) :
    (js : List Json) → compactItems js = Layout.tight.itemChars level js
  | [] => rfl
  | j :: js => by
    simp [compactItems, Layout.itemChars, compactChars_eq level j, compactItems_eq level js]
termination_by structural js => js

theorem compactMembers_eq (level : Nat) :
    (ms : List (String × Json)) → compactMembers ms = Layout.tight.memberChars level ms
  | [] => rfl
  | (k, j) :: ms => by
    simp [compactMembers, Layout.memberChars, compactChars_eq level j, compactMembers_eq level ms]
termination_by structural ms => ms

end

mutual

theorem prettyChars_eq (level : Nat) : (j : Json) → j.prettyChars level = Layout.indented.chars level j
  | .null | .bool true | .bool false | .number _ | .string _ | .array [] | .object [] => rfl
  | .array (j :: js) => by
    simp [prettyChars, Layout.chars, prettyChars_eq (level + 1) j, prettyItems_eq (level + 1) js]
  | .object ((k, j) :: ms) => by
    simp [prettyChars, Layout.chars, prettyChars_eq (level + 1) j, prettyMembers_eq (level + 1) ms]
termination_by structural j => j

theorem prettyItems_eq (level : Nat) :
    (js : List Json) → prettyItems level js = Layout.indented.itemChars level js
  | [] => rfl
  | j :: js => by
    simp [prettyItems, Layout.itemChars, prettyChars_eq level j, prettyItems_eq level js]
termination_by structural js => js

theorem prettyMembers_eq (level : Nat) :
    (ms : List (String × Json)) → prettyMembers level ms = Layout.indented.memberChars level ms
  | [] => rfl
  | (k, j) :: ms => by
    simp [prettyMembers, Layout.memberChars, prettyChars_eq level j, prettyMembers_eq level ms]
termination_by structural ms => ms

end

/-! ### The document of a value -/

mutual

/-- The document that a text of the value spells. A double is left out: its digits are rounded, and
what they spell is another number. -/
def document : Json → Document
  | .null => .null
  | .bool b => .bool b
  | .number (.int n) => .number ⟨n < 0, Decimal.digits n.natAbs, none, none⟩
  | .number (.float _) => .broken
  | .string s => .string (some s)
  | .array items => .array (documents items)
  | .object members => .object (memberDocuments members)

/-- The documents of the items of an array. -/
def documents : List Json → List Document
  | [] => []
  | j :: js => j.document :: documents js

/-- The documents of the members of an object. -/
def memberDocuments : List (String × Json) → List (Document × Document)
  | [] => []
  | (k, j) :: ms => (.string (some k), j.document) :: memberDocuments ms

end

namespace Document

/-! ### Steps of the reader -/

theorem skipBlanks_append {bs : List Char} (h : ∀ c ∈ bs, isBlank c) (cs : List Char) :
    skipBlanks (bs ++ cs) = skipBlanks cs :=
  List.dropWhile_append_of_pos h

theorem skipBlanks_cons {c : Char} (h : isBlank c = false) (cs : List Char) :
    skipBlanks (c :: cs) = c :: cs := by
  rw [skipBlanks, List.dropWhile_cons_of_neg (by simp [h])]

theorem readValue_append {bs : List Char} (h : ∀ c ∈ bs, isBlank c) (steps : Nat)
    (cs : List Char) : readValue steps (bs ++ cs) = readValue steps cs := by
  cases steps with
  | zero => rfl
  | succ steps => rw [readValue, skipBlanks_append h, ← readValue]

theorem readItems_append {bs : List Char} (h : ∀ c ∈ bs, isBlank c) (steps : Nat)
    (cs : List Char) : readItems steps (bs ++ cs) = readItems steps cs := by
  cases steps with
  | zero => rfl
  | succ steps => rw [readItems, readValue_append h, ← readItems]

theorem readMembers_append {bs : List Char} (h : ∀ c ∈ bs, isBlank c) (steps : Nat)
    (cs : List Char) : readMembers steps (bs ++ cs) = readMembers steps cs := by
  cases steps with
  | zero => rfl
  | succ steps => rw [readMembers, readValue_append h, ← readMembers]

theorem readValue_stringText (steps : Nat) (s : String) (rest : List Char) :
    readValue (steps + 1) (stringText s ++ rest) = (string (some s), some rest) := by
  have hread : readString (s.toList.flatMap escapeChar ++ '"' :: rest) =
      some (s.toList.map Char.toNat, rest) :=
    readString_escaped s.toList rest
  have htext : stringText s ++ rest = '"' :: (s.toList.flatMap escapeChar ++ '"' :: rest) := by
    simp [stringText]
  rw [htext, readValue]
  show ofPart (fun ns => string (ofCodes ns)) (readString _) = _
  rw [hread, ofPart, ofCodes_toNat]

theorem isBlank_of_isDigit {c : Char} (h : c.isDigit) : isBlank c = false := by
  have hne : ∀ b : Char, b.isDigit = false → c ≠ b := by
    rintro b hb rfl
    rw [hb] at h
    cases h
  simp [isBlank, hne ' ' rfl, hne '\n' rfl, hne '\r' rfl, hne '\t' rfl]

theorem readValue_of_isDigit (steps : Nat) {c : Char} (h : c.isDigit) (cs : List Char) :
    readValue (steps + 1) (c :: cs) = ofPart number (readLiteral false (c :: cs)) := by
  rw [readValue, skipBlanks_cons (isBlank_of_isDigit h)]
  split
  case h_8 => rfl
  -- Every other kind of value starts with a character that is no digit.
  all_goals
    rename_i heq
    cases heq
    cases h

/-- An integer reads as the literal of its sign and digits. -/
theorem readValue_intText (steps : Nat) (n : Int) {rest : List Char} (h : endsNumber rest) :
    readValue (steps + 1) ((intText n).toList ++ rest) =
      (number ⟨n < 0, Decimal.digits n.natAbs, none, none⟩, some rest) := by
  rw [intText, String.toList_ofList]
  split
  case isTrue hn =>
    show ofPart number (readLiteral true (Decimal.digits n.natAbs ++ rest)) = _
    rw [readLiteral_digits true _ h, ofPart, decide_eq_true hn]
  case isFalse hn =>
    obtain ⟨d, ds, hdigits, hd⟩ := exists_digits_eq_cons n.natAbs
    have hread := readLiteral_digits false n.natAbs h
    rw [hdigits, List.cons_append] at hread ⊢
    rw [readValue_of_isDigit steps hd, hread, ofPart, decide_eq_false hn]

theorem readValue_array (steps : Nat) {bs : List Char} (hbs : ∀ c ∈ bs, isBlank c) {c : Char}
    (hblank : isBlank c = false) (hclose : c ≠ ']') (cs : List Char) :
    readValue (steps + 1) ('[' :: (bs ++ c :: cs)) =
      Prod.map array id (readItems steps (c :: cs)) := by
  have hskip : skipBlanks (bs ++ c :: cs) = c :: cs := by
    rw [skipBlanks_append hbs, skipBlanks_cons hblank]
  rw [readValue, skipBlanks_cons rfl]
  simp only [hskip]
  split
  next heq => exact absurd (List.cons.inj heq).1 hclose
  next => rfl

theorem readValue_object (steps : Nat) {bs : List Char} (hbs : ∀ c ∈ bs, isBlank c)
    (cs : List Char) :
    readValue (steps + 1) ('\x7b' :: (bs ++ '"' :: cs)) =
      Prod.map object id (readMembers steps ('"' :: cs)) := by
  have hskip : skipBlanks (bs ++ '"' :: cs) = '"' :: cs := by
    rw [skipBlanks_append hbs, skipBlanks_cons rfl]
  rw [readValue, skipBlanks_cons rfl]
  simp only [hskip]
  rfl

section

variable {steps : Nat} {cs rest : List Char} {d : Document} {bs : List Char}

theorem readItems_last (h : readValue steps cs = (d, some (bs ++ ']' :: rest)))
    (hbs : ∀ c ∈ bs, isBlank c) : readItems (steps + 1) cs = ([d], some rest) := by
  rw [readItems, h]
  simp only [skipBlanks_append hbs, skipBlanks_cons (show isBlank ']' = false from rfl)]

theorem readItems_comma (h : readValue steps cs = (d, some (',' :: rest))) :
    readItems (steps + 1) cs = Prod.map (d :: ·) id (readItems steps rest) := by
  rw [readItems, h]
  rfl

theorem readMembers_last {key : Option String} {text : List Char}
    (hkey : readValue steps cs = (string key, some (':' :: text)))
    (h : readValue steps text = (d, some (bs ++ '\x7d' :: rest))) (hbs : ∀ c ∈ bs, isBlank c) :
    readMembers (steps + 1) cs = ([(string key, d)], some rest) := by
  rw [readMembers, hkey]
  simp only [skipBlanks_cons (show isBlank ':' = false from rfl), h, skipBlanks_append hbs,
    skipBlanks_cons (show isBlank '\x7d' = false from rfl)]

theorem readMembers_comma {key : Option String} {text : List Char}
    (hkey : readValue steps cs = (string key, some (':' :: text)))
    (h : readValue steps text = (d, some (',' :: rest))) :
    readMembers (steps + 1) cs = Prod.map ((string key, d) :: ·) id (readMembers steps rest) := by
  rw [readMembers, hkey]
  simp only [skipBlanks_cons (show isBlank ':' = false from rfl), h,
    skipBlanks_cons (show isBlank ',' = false from rfl)]
  rfl

end

/-! ### Reading what was written -/

theorem endsNumber_append {bs rest : List Char} (h : ∀ c ∈ bs, isBlank c) (hrest : endsNumber rest) :
    endsNumber (bs ++ rest) := by
  cases bs with
  | nil => exact hrest
  | cons b bs =>
    have hb : isBlank b := h b List.mem_cons_self
    simp only [isBlank, Bool.or_eq_true, beq_iff_eq] at hb
    rcases hb with ((rfl | rfl) | rfl) | rfl <;> rfl

/-- The text of a value starts with a character that neither is blank nor closes an array. -/
theorem exists_chars_eq_cons (l : Layout) (level : Nat) {j : Json} (h : j.document.isWhole) :
    ∃ c cs, l.chars level j = c :: cs ∧ isBlank c = false ∧ c ≠ ']' := by
  match j with
  | .null => exact ⟨'n', _, rfl, rfl, by decide⟩
  | .bool true => exact ⟨'t', _, rfl, rfl, by decide⟩
  | .bool false => exact ⟨'f', _, rfl, rfl, by decide⟩
  | .string s => exact ⟨'"', _, rfl, rfl, by decide⟩
  | .array [] | .array (_ :: _) => exact ⟨'[', _, rfl, rfl, by decide⟩
  | .object [] | .object (_ :: _) => exact ⟨'\x7b', _, rfl, rfl, by decide⟩
  | .number (.float _) => cases h
  | .number (.int n) =>
    show ∃ c cs, (intText n).toList = c :: cs ∧ _
    rw [intText, String.toList_ofList]
    split
    · exact ⟨'-', _, rfl, rfl, by decide⟩
    · obtain ⟨d, ds, hds, hd⟩ := exists_digits_eq_cons n.natAbs
      refine ⟨d, ds, hds, isBlank_of_isDigit hd, ?_⟩
      rintro rfl
      cases hd

/-- With so many steps the text of every value that is short enough is read as its document. -/
def ReadsValues (l : Layout) (steps : Nat) : Prop :=
  ∀ level j rest, j.document.isWhole → endsNumber rest → (l.chars level j).length ≤ steps →
    readValue steps (l.chars level j ++ rest) = (j.document, some rest)

/-- The same for the items of an array. -/
def ReadsItems (l : Layout) (steps : Nat) : Prop :=
  ∀ level j js bs rest, j.document.isWhole → areWhole (documents js) → (∀ c ∈ bs, isBlank c) →
    (l.chars level j).length + (l.itemChars level js).length < steps →
    readItems steps (l.chars level j ++ (l.itemChars level js ++ (bs ++ ']' :: rest))) =
      (documents (j :: js), some rest)

/-- The same for the members of an object. -/
def ReadsMembers (l : Layout) (steps : Nat) : Prop :=
  ∀ level k j ms bs rest, j.document.isWhole → membersAreWhole (memberDocuments ms) →
    (∀ c ∈ bs, isBlank c) → (l.chars level j).length + (l.memberChars level ms).length < steps →
    readMembers steps (stringText k ++ ':' :: (l.space ++ (l.chars level j ++
      (l.memberChars level ms ++ (bs ++ '\x7d' :: rest))))) =
      (memberDocuments ((k, j) :: ms), some rest)

theorem ReadsValues.succ {l : Layout} {steps : Nat} (hitems : ReadsItems l steps)
    (hmembers : ReadsMembers l steps) : ReadsValues l (steps + 1) := by
  intro level j rest hwhole hrest hsteps
  match j with
  | .null | .bool true | .bool false | .array [] | .object [] => rfl
  | .string s => exact readValue_stringText steps s rest
  | .number (.int n) => exact readValue_intText steps n hrest
  | .number (.float _) => cases hwhole
  | .array (j :: js) =>
    obtain ⟨hj, hjs⟩ : j.document.isWhole ∧ areWhole (documents js) := by
      simpa [document, documents, isWhole, areWhole] using hwhole
    obtain ⟨c, cs, hcs, hblank, hclose⟩ := exists_chars_eq_cons l (level + 1) hj
    have hread := hitems (level + 1) j js (l.gap level) rest hj hjs (l.gap_blank level)
      (by simp [Layout.chars] at hsteps; omega)
    simp only [Layout.chars, List.cons_append, List.append_assoc, List.nil_append] at hread ⊢
    rw [hcs, List.cons_append] at hread ⊢
    rw [readValue_array steps (l.gap_blank _) hblank hclose, hread]
    rfl
  | .object ((k, j) :: ms) =>
    obtain ⟨hj, hms⟩ : j.document.isWhole ∧ membersAreWhole (memberDocuments ms) := by
      simpa [document, memberDocuments, isWhole, membersAreWhole] using hwhole
    have hread := hmembers (level + 1) k j ms (l.gap level) rest hj hms (l.gap_blank level)
      (by simp [Layout.chars] at hsteps; omega)
    simp only [Layout.chars, List.cons_append, List.append_assoc, List.nil_append, stringText]
      at hread ⊢
    rw [readValue_object steps (l.gap_blank _), hread]
    rfl

theorem ReadsItems.succ {l : Layout} {steps : Nat} (hvalues : ReadsValues l steps)
    (hitems : ReadsItems l steps) : ReadsItems l (steps + 1) := by
  intro level j js bs rest hj hjs hbs hsteps
  match js with
  | [] =>
    have hread := hvalues level j (bs ++ ']' :: rest) hj (endsNumber_append hbs rfl) (by omega)
    exact readItems_last hread hbs
  | j' :: js =>
    obtain ⟨hj', hjs'⟩ : j'.document.isWhole ∧ areWhole (documents js) := by
      simpa [documents, areWhole] using hjs
    simp only [Layout.itemChars, List.length_cons, List.length_append] at hsteps
    have hread := hvalues level j (',' :: (l.gap level ++ (l.chars level j' ++
      (l.itemChars level js ++ (bs ++ ']' :: rest))))) hj rfl (by omega)
    simp only [Layout.itemChars, List.cons_append, List.append_assoc]
    rw [readItems_comma hread, readItems_append (l.gap_blank level),
      hitems level j' js bs rest hj' hjs' hbs (by omega)]
    rfl

theorem ReadsMembers.succ {l : Layout} {steps : Nat} (hvalues : ReadsValues l steps)
    (hmembers : ReadsMembers l steps) : ReadsMembers l (steps + 1) := by
  intro level k j ms bs rest hj hms hbs hsteps
  -- The key takes one step, which the first character of the value leaves for it.
  obtain ⟨c, cs, hcs, -, -⟩ := exists_chars_eq_cons l level hj
  obtain ⟨steps, rfl⟩ : ∃ n, steps = n + 1 := by
    rw [hcs, List.length_cons] at hsteps
    exact ⟨steps - 1, by omega⟩
  have hkey (text : List Char) := readValue_stringText steps k (':' :: text)
  match ms with
  | [] =>
    have hread := hvalues level j (bs ++ '\x7d' :: rest) hj (endsNumber_append hbs rfl) (by omega)
    rw [← readValue_append l.space_blank] at hread
    exact readMembers_last (hkey _) hread hbs
  | (k', j') :: ms =>
    obtain ⟨hj', hms'⟩ : j'.document.isWhole ∧ membersAreWhole (memberDocuments ms) := by
      simpa [memberDocuments, isWhole, membersAreWhole] using hms
    simp only [Layout.memberChars, List.length_cons, List.length_append] at hsteps
    have hread := hvalues level j (',' :: (l.gap level ++ (stringText k' ++ ':' :: (l.space ++
      (l.chars level j' ++ (l.memberChars level ms ++ (bs ++ '\x7d' :: rest))))))) hj rfl (by omega)
    rw [← readValue_append l.space_blank] at hread
    simp only [Layout.memberChars, List.cons_append, List.append_assoc]
    rw [readMembers_comma (hkey _) hread, readMembers_append (l.gap_blank level),
      hmembers level k' j' ms bs rest hj' hms' hbs (by omega)]
    rfl

/-- Every step reads one part of the text, so as many steps as characters are enough. -/
theorem reads_of_length_le (l : Layout) (steps : Nat) :
    ReadsValues l steps ∧ ReadsItems l steps ∧ ReadsMembers l steps := by
  induction steps with
  | zero =>
    refine ⟨?_, fun _ _ _ _ _ _ _ _ h => absurd h (by omega),
      fun _ _ _ _ _ _ _ _ _ h => absurd h (by omega)⟩
    intro level j rest hwhole _ hsteps
    obtain ⟨c, cs, hcs, -, -⟩ := exists_chars_eq_cons l level hwhole
    rw [hcs] at hsteps
    exact absurd hsteps (by simp)
  | succ steps ih =>
    obtain ⟨hvalues, hitems, hmembers⟩ := ih
    exact ⟨.succ hitems hmembers, .succ hvalues hitems, .succ hvalues hmembers⟩

theorem read_chars (l : Layout) {j : Json} (h : j.document.isWhole) :
    read (l.chars 0 j) = (j.document, some []) := by
  have hread := (reads_of_length_le l (2 * (l.chars 0 j).length + 1)).1 0 j [] h rfl (by omega)
  rw [List.append_nil] at hread
  exact hread

theorem read_compact {j : Json} (h : j.document.isWhole) :
    read j.compact.toList = (j.document, some []) := by
  rw [compact, String.toList_ofList, compactChars_eq 0 j, read_chars _ h]

theorem read_pretty {j : Json} (h : j.document.isWhole) :
    read j.pretty.toList = (j.document, some []) := by
  rw [pretty, String.toList_ofList, prettyChars_eq 0 j, read_chars _ h]

end Document

/-! ### Nothing is lost -/

theorem literal_injective {n m : Int} (hsign : decide (n < 0) = decide (m < 0))
    (hdigits : Decimal.digits n.natAbs = Decimal.digits m.natAbs) : n = m := by
  have habs : n.natAbs = m.natAbs := by
    rw [← natOfDigits_digits n.natAbs, hdigits, natOfDigits_digits]
  have hneg : n < 0 ↔ m < 0 := decide_eq_decide.mp hsign
  omega

mutual

/-- Values with one document are one value. -/
theorem document_injective : {j j' : Json} → j.document.isWhole → j.document = j'.document → j = j'
  | .null, j', _, h => by
    rcases j' with _ | _ | ⟨_ | _⟩ | _ | _ | _ <;> cases h
    rfl
  | .bool _, j', _, h => by
    rcases j' with _ | _ | ⟨_ | _⟩ | _ | _ | _ <;> cases h
    rfl
  | .string _, j', _, h => by
    rcases j' with _ | _ | ⟨_ | _⟩ | _ | _ | _ <;> cases h
    rfl
  | .number (.float _), _, hwhole, _ => by cases hwhole
  | .number (.int n), j', _, h => by
    rcases j' with _ | _ | ⟨m | _⟩ | _ | _ | _ <;> try cases h
    have hliteral := Literal.mk.inj (Document.number.inj h)
    rw [literal_injective hliteral.1 hliteral.2.1]
  | .array items, j', hwhole, h => by
    rcases j' with _ | _ | ⟨_ | _⟩ | _ | items' | _ <;> try cases h
    rw [documents_injective hwhole (Document.array.inj h)]
  | .object members, j', hwhole, h => by
    rcases j' with _ | _ | ⟨_ | _⟩ | _ | _ | members' <;> try cases h
    rw [memberDocuments_injective hwhole (Document.object.inj h)]
termination_by structural j => j

theorem documents_injective : {js js' : List Json} → Document.areWhole (documents js) →
    documents js = documents js' → js = js'
  | [], [], _, _ => rfl
  | [], _ :: _, _, h => by cases h
  | _ :: _, [], _, h => by cases h
  | j :: js, j' :: js', hwhole, h => by
    obtain ⟨hj, hjs⟩ : j.document.isWhole ∧ Document.areWhole (documents js) := by
      simpa [documents, Document.areWhole] using hwhole
    have hcons := List.cons.inj h
    rw [document_injective hj hcons.1, documents_injective hjs hcons.2]
termination_by structural js => js

theorem memberDocuments_injective : {ms ms' : List (String × Json)} →
    Document.membersAreWhole (memberDocuments ms) → memberDocuments ms = memberDocuments ms' →
    ms = ms'
  | [], [], _, _ => rfl
  | [], _ :: _, _, h => by cases h
  | _ :: _, [], _, h => by cases h
  | (k, j) :: ms, (k', j') :: ms', hwhole, h => by
    obtain ⟨hj, hms⟩ : j.document.isWhole ∧ Document.membersAreWhole (memberDocuments ms) := by
      simpa [memberDocuments, Document.isWhole, Document.membersAreWhole] using hwhole
    have hcons := List.cons.inj h
    have hmember := Prod.mk.inj hcons.1
    have hkey : k = k' := Option.some.inj (Document.string.inj hmember.1)
    rw [hkey, document_injective hj hmember.2, memberDocuments_injective hms hcons.2]
termination_by structural ms => ms

end

/-! ### Values within the limits of the reader -/

mutual

/-- Whether every number of a value is an integer of 64 bits, with or without sign. -/
def FitsWords : Json → Prop
  | .number (.int n) => -(Decimal.twoTo 63 : Int) ≤ n ∧ n ≤ Literal.wordMax
  | .number (.float _) => False
  | .array items => ItemsFitWords items
  | .object members => MembersFitWords members
  | _ => True

/-- Whether every number of the items of an array is an integer of 64 bits. -/
def ItemsFitWords : List Json → Prop
  | [] => True
  | j :: js => j.FitsWords ∧ ItemsFitWords js

/-- Whether every number of the members of an object is an integer of 64 bits. -/
def MembersFitWords : List (String × Json) → Prop
  | [] => True
  | (_, j) :: ms => j.FitsWords ∧ MembersFitWords ms

end

theorem value?_literal {n : Int} (h : FitsWords (.number (.int n))) :
    Literal.value? ⟨n < 0, Decimal.digits n.natAbs, none, none⟩ = some (.int n) := by
  obtain ⟨hlow, hhigh⟩ := h
  rw [Literal.value?]
  simp only [natOfDigits_digits]
  by_cases hn : n < 0
  · have habs : 0 < n.natAbs ∧ n.natAbs ≤ Decimal.twoTo 63 := by omega
    have hvalue : -(n.natAbs : Int) = n := by omega
    rw [if_neg (by simp [hn]), if_pos (by simp [hn, habs]), hvalue]
  · have habs : n.natAbs ≤ Literal.wordMax := by omega
    have hvalue : (n.natAbs : Int) = n := by omega
    rw [if_pos (by simp [hn, habs]), hvalue]

mutual

/-- The value of the document of a value that is within the limits. -/
theorem value?_document {levels : Nat} : {j : Json} → j.depth ≤ levels → j.FitsWords →
    j.document.value? levels = some j.sorted
  | .null, _, _ | .bool _, _, _ | .string _, _, _ => rfl
  | .number (.int n), _, hfits => by
    rw [document, Document.value?, value?_literal hfits]
    rfl
  | .array items, hdepth, hfits => by
    obtain ⟨n, rfl⟩ := Nat.exists_eq_add_one.mpr (Nat.zero_lt_of_lt hdepth)
    have hitems := values?_documents (Nat.le_of_succ_le_succ hdepth) hfits
    simp [document, Document.value?, hitems, sorted]
  | .object members, hdepth, hfits => by
    obtain ⟨n, rfl⟩ := Nat.exists_eq_add_one.mpr (Nat.zero_lt_of_lt hdepth)
    have hmembers := memberValues?_documents (Nat.le_of_succ_le_succ hdepth) hfits
    simp [document, Document.value?, hmembers, sorted]
termination_by structural j => j

theorem values?_documents {levels : Nat} : {js : List Json} → depthItems js ≤ levels →
    ItemsFitWords js → Document.values? levels (documents js) = some (sortedItems js)
  | [], _, _ => rfl
  | j :: js, hdepth, hfits => by
    obtain ⟨hj, hjs⟩ := Nat.max_le.mp hdepth
    rw [documents, Document.values?, value?_document hj hfits.1, values?_documents hjs hfits.2]
    rfl
termination_by structural js => js

theorem memberValues?_documents {levels : Nat} : {ms : List (String × Json)} →
    depthMembers ms ≤ levels → MembersFitWords ms →
    Document.memberValues? levels (memberDocuments ms) = some (sortedMembers ms)
  | [], _, _ => rfl
  | (k, j) :: ms, hdepth, hfits => by
    obtain ⟨hj, hms⟩ := Nat.max_le.mp hdepth
    rw [memberDocuments, Document.memberValues?, value?_document hj hfits.1,
      memberValues?_documents hms hfits.2]
    rfl
termination_by structural ms => ms

end

theorem parse?_of_read {text : String} {d : Document}
    (h : Document.read text.toList = (d, some [])) : parse? text = d.value? maxDepth := by
  rw [parse?, h]
  rfl

end TemplateLint.Json
