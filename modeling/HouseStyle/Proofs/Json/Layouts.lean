import HouseStyle.Proofs.Json.Scanning

/-!
The two layouts of JSON text as one, which leaves gaps of blanks between tokens. Compact text has
empty gaps, pretty text has line breaks and indents, and without its blanks any of them is the
compact text. Blanks inside strings are kept: a string is told from its quotes, of which those after
a backslash do not count.
-/

namespace HouseStyle.Json

/-- What a layout puts before an item at a level, and between a key and its value. -/
structure Gaps where
  line : Nat → List Char
  space : List Char
  line_blank : ∀ level, ∀ char ∈ line level, Token.isBlank char = true
  space_blank : ∀ char ∈ space, Token.isBlank char = true

namespace Gaps

def empty : Gaps where
  line := fun _ => []
  space := []
  line_blank := by simp
  space_blank := by simp

@[simp] theorem empty_line (level : Nat) : empty.line level = [] := rfl

@[simp] theorem empty_space : empty.space = [] := rfl

theorem newLine_blank (level : Nat) (char : Char) (member : char ∈ newLine level) :
    Token.isBlank char = true := by
  rcases List.mem_cons.mp member with rfl | indent
  · decide
  · rw [List.eq_of_mem_replicate indent]
    decide

def indented : Gaps where
  line := newLine
  space := [' ']
  line_blank := newLine_blank
  space_blank := List.all_eq_true.mp rfl

@[simp] theorem indented_line (level : Nat) : indented.line level = newLine level := rfl

@[simp] theorem indented_space : indented.space = [' '] := rfl

end Gaps

mutual

def laid (gaps : Gaps) (level : Nat) : Json → List Char
  | list (first :: rest) =>
    '[' :: gaps.line (level + 1) ++ laid gaps (level + 1) first ++ laidItems gaps level rest
  | object ((key, value) :: rest) =>
    '\x7b' :: gaps.line (level + 1) ++ quoted key ++ ':' :: gaps.space ++
      laid gaps (level + 1) value ++ laidMembers gaps level rest
  | value => atom value

def laidItems (gaps : Gaps) (level : Nat) : List Json → List Char
  | [] => gaps.line level ++ [']']
  | item :: rest =>
    ',' :: gaps.line (level + 1) ++ laid gaps (level + 1) item ++ laidItems gaps level rest

def laidMembers (gaps : Gaps) (level : Nat) : List (String × Json) → List Char
  | [] => gaps.line level ++ ['\x7d']
  | (key, value) :: rest =>
    ',' :: gaps.line (level + 1) ++ quoted key ++ ':' :: gaps.space ++
      laid gaps (level + 1) value ++ laidMembers gaps level rest

end

mutual

theorem laid_empty (level : Nat) : ∀ value : Json, laid .empty level value = compact value
  | list (first :: rest) => by
    simp [laid, compact, laid_empty (level + 1) first, laidItems_empty level rest]
  | object ((key, value) :: rest) => by
    simp [laid, compact, laid_empty (level + 1) value, laidMembers_empty level rest]
  | list [] => rfl
  | object [] => rfl
  | null => rfl
  | bool _ => rfl
  | integer _ => rfl
  | decimal _ => rfl
  | text _ => rfl

theorem laidItems_empty (level : Nat) :
    ∀ items : List Json, laidItems .empty level items = compactItems items
  | [] => rfl
  | item :: rest => by
    simp [laidItems, compactItems, laid_empty (level + 1) item,
      laidItems_empty level rest]

theorem laidMembers_empty (level : Nat) :
    ∀ members : List (String × Json), laidMembers .empty level members = compactMembers members
  | [] => rfl
  | (key, value) :: rest => by
    simp [laidMembers, compactMembers, laid_empty (level + 1) value,
      laidMembers_empty level rest]

end

mutual

theorem laid_indented (level : Nat) :
    ∀ value : Json, laid .indented level value = pretty level value
  | list (first :: rest) => by
    simp [laid, pretty, laid_indented (level + 1) first,
      laidItems_indented level rest]
  | object ((key, value) :: rest) => by
    simp [laid, pretty, laid_indented (level + 1) value,
      laidMembers_indented level rest]
  | list [] => rfl
  | object [] => rfl
  | null => rfl
  | bool _ => rfl
  | integer _ => rfl
  | decimal _ => rfl
  | text _ => rfl

theorem laidItems_indented (level : Nat) :
    ∀ items : List Json, laidItems .indented level items = prettyItems level items
  | [] => rfl
  | item :: rest => by
    simp [laidItems, prettyItems, laid_indented (level + 1) item,
      laidItems_indented level rest]

theorem laidMembers_indented (level : Nat) :
    ∀ members : List (String × Json),
      laidMembers .indented level members = prettyMembers level members
  | [] => rfl
  | (key, value) :: rest => by
    simp [laidMembers, prettyMembers, laid_indented (level + 1) value,
      laidMembers_indented level rest]

end

/-! Text without its blanks. -/

/-- Where a character stands: outside strings, inside one, or inside one after a backslash. -/
inductive Place where
  | outside
  | inside
  | escaped
deriving DecidableEq

def Place.next (place : Place) (char : Char) : Place :=
  match place with
  | outside => if char = '"' then inside else outside
  | inside => if char = '"' then outside else if char = '\\' then escaped else inside
  | escaped => inside

/-- The text without the blanks outside strings. -/
def squeeze (place : Place) : List Char → List Char
  | [] => []
  | char :: rest =>
    if place = .outside ∧ Token.isBlank char = true then squeeze place rest
    else char :: squeeze (place.next char) rest

theorem squeeze_gap (gap rest : List Char) (blank : ∀ char ∈ gap, Token.isBlank char = true) :
    squeeze .outside (gap ++ rest) = squeeze .outside rest := by
  induction gap with
  | nil => rfl
  | cons char more ih =>
    rw [List.cons_append, squeeze, if_pos ⟨rfl, blank char List.mem_cons_self⟩]
    exact ih fun other member => blank other (List.mem_cons_of_mem char member)

def isSolid (char : Char) : Bool := !Token.isBlank char && char ≠ '"'

theorem isSolid_iff (char : Char) :
    isSolid char = true ↔ Token.isBlank char = false ∧ char ≠ '"' := by
  simp [isSolid]

theorem squeeze_solid (row rest : List Char) (solid : ∀ char ∈ row, isSolid char = true) :
    squeeze .outside (row ++ rest) = row ++ squeeze .outside rest := by
  induction row with
  | nil => rfl
  | cons char more ih =>
    obtain ⟨noBlank, noQuote⟩ := (isSolid_iff char).mp (solid char List.mem_cons_self)
    rw [List.cons_append, squeeze, if_neg (by simp [noBlank]), Place.next, if_neg noQuote,
      List.cons_append, ih fun other member => solid other (List.mem_cons_of_mem char member)]

theorem squeeze_inside (char : Char) (rest : List Char) (noQuote : char ≠ '"')
    (noEscape : char ≠ '\\') : squeeze .inside (char :: rest) = char :: squeeze .inside rest := by
  rw [squeeze, if_neg (by simp), Place.next, if_neg noQuote, if_neg noEscape]

theorem squeeze_letter (letter : Char) (rest : List Char) :
    squeeze .inside ('\\' :: letter :: rest) = '\\' :: letter :: squeeze .inside rest := rfl

theorem hexDigit_inside (digit : Nat) (small : digit < 16) :
    hexDigit digit ≠ '"' ∧ hexDigit digit ≠ '\\' := by
  revert small digit
  decide

theorem squeeze_hexDigit (digit : Nat) (rest : List Char) (small : digit < 16) :
    squeeze .inside (hexDigit digit :: rest) = hexDigit digit :: squeeze .inside rest := by
  obtain ⟨noQuote, noEscape⟩ := hexDigit_inside digit small
  exact squeeze_inside _ rest noQuote noEscape

theorem squeeze_escape (char : Char) (rest : List Char) :
    squeeze .inside (escape char ++ rest) = escape char ++ squeeze .inside rest := by
  generalize escape char = written, escaped_escape char = way
  cases way with
  | letter letter known short => exact squeeze_letter letter rest
  | code control =>
    have zeros : ∀ after, squeeze .inside ('\\' :: 'u' :: '0' :: '0' :: after) =
        '\\' :: 'u' :: '0' :: '0' :: squeeze .inside after := fun _ => rfl
    simp only [List.cons_append, List.nil_append]
    rw [zeros, squeeze_hexDigit _ _ (by omega), squeeze_hexDigit _ _ (by omega)]
  | plain noQuote noEscape visible => exact squeeze_inside char rest noQuote noEscape

theorem squeeze_escaped (text rest : List Char) :
    squeeze .inside (text.flatMap escape ++ '"' :: rest) =
      text.flatMap escape ++ '"' :: squeeze .outside rest := by
  induction text with
  | nil => rfl
  | cons char more ih =>
    rw [List.flatMap_cons, List.append_assoc, squeeze_escape, ih, List.append_assoc]

theorem squeeze_quoted (content : String) (rest : List Char) :
    squeeze .outside (quoted content ++ rest) = quoted content ++ squeeze .outside rest := by
  have spelled : ∀ after, quoted content ++ after =
      '"' :: (content.toList.flatMap escape ++ '"' :: after) := by
    intro after
    simp [quoted]
  rw [spelled, spelled, ← squeeze_escaped]
  rfl

/-- A number, a word or a pair of brackets has neither blanks nor quotes. -/
theorem squeeze_atom (value : Json) (rest : List Char) :
    squeeze .outside (atom value ++ rest) = atom value ++ squeeze .outside rest := by
  have apart : ∀ written : List Char, (∀ char ∈ written, Token.isNumberChar char = true) →
      squeeze .outside (written ++ rest) = written ++ squeeze .outside rest := by
    intro written digits
    refine squeeze_solid written rest fun char member => ?_
    obtain ⟨noBlank, _, noQuote⟩ := Token.isNumberChar_apart char (digits char member)
    exact (isSolid_iff char).mpr ⟨noBlank, noQuote⟩
  cases value with
  | null => exact squeeze_solid _ rest (List.all_eq_true.mp rfl)
  | bool value => cases value <;> exact squeeze_solid _ rest (List.all_eq_true.mp rfl)
  | integer number => exact apart _ (Token.isNumberChar_of_integerText number)
  | decimal number => exact apart _ (Token.isNumberChar_of_decimalText number)
  | text content => exact squeeze_quoted content rest
  | list items => exact squeeze_solid ['[', ']'] rest (List.all_eq_true.mp rfl)
  | object members => exact squeeze_solid ['\x7b', '\x7d'] rest (List.all_eq_true.mp rfl)

theorem squeeze_mark (char : Char) (rest : List Char) (known : Token.isMark char = true) :
    squeeze .outside (char :: rest) = char :: squeeze .outside rest := by
  have noBlank := Token.isBlank_of_isMark char known
  have noQuote : char ≠ '"' := by
    rintro rfl
    contradiction
  exact squeeze_solid [char] rest (by simp [isSolid_iff, noBlank, noQuote])

mutual

theorem squeeze_laid (gaps : Gaps) (level : Nat) (rest : List Char) : ∀ value : Json,
    squeeze .outside (laid gaps level value ++ rest) = compact value ++ squeeze .outside rest
  | list (first :: others) => by
    simp only [laid, compact, List.cons_append, List.append_assoc]
    rw [squeeze_mark '[' _ rfl, squeeze_gap _ _ (gaps.line_blank (level + 1)),
      squeeze_laid gaps (level + 1) _ first, squeeze_laidItems gaps level rest others]
  | object ((key, value) :: others) => by
    simp only [laid, compact, List.cons_append, List.append_assoc]
    rw [squeeze_mark '\x7b' _ rfl, squeeze_gap _ _ (gaps.line_blank (level + 1)), squeeze_quoted,
      squeeze_mark ':' _ rfl, squeeze_gap _ _ gaps.space_blank,
      squeeze_laid gaps (level + 1) _ value, squeeze_laidMembers gaps level rest others]
  | list [] => squeeze_atom (list []) rest
  | object [] => squeeze_atom (object []) rest
  | null => squeeze_atom null rest
  | bool value => squeeze_atom (bool value) rest
  | integer number => squeeze_atom (integer number) rest
  | decimal number => squeeze_atom (decimal number) rest
  | text content => squeeze_atom (text content) rest

theorem squeeze_laidItems (gaps : Gaps) (level : Nat) (rest : List Char) : ∀ items : List Json,
    squeeze .outside (laidItems gaps level items ++ rest) =
      compactItems items ++ squeeze .outside rest
  | [] => by
    rw [laidItems, List.append_assoc, squeeze_gap _ _ (gaps.line_blank level)]
    exact squeeze_mark ']' rest rfl
  | item :: others => by
    simp only [laidItems, compactItems, List.cons_append, List.append_assoc]
    rw [squeeze_mark ',' _ rfl, squeeze_gap _ _ (gaps.line_blank (level + 1)),
      squeeze_laid gaps (level + 1) _ item, squeeze_laidItems gaps level rest others]

theorem squeeze_laidMembers (gaps : Gaps) (level : Nat) (rest : List Char) :
    ∀ members : List (String × Json),
      squeeze .outside (laidMembers gaps level members ++ rest) =
        compactMembers members ++ squeeze .outside rest
  | [] => by
    rw [laidMembers, List.append_assoc, squeeze_gap _ _ (gaps.line_blank level)]
    exact squeeze_mark '\x7d' rest rfl
  | (key, value) :: others => by
    simp only [laidMembers, compactMembers, List.cons_append, List.append_assoc]
    rw [squeeze_mark ',' _ rfl, squeeze_gap _ _ (gaps.line_blank (level + 1)), squeeze_quoted,
      squeeze_mark ':' _ rfl, squeeze_gap _ _ gaps.space_blank,
      squeeze_laid gaps (level + 1) _ value, squeeze_laidMembers gaps level rest others]

end

/-- Pretty text is the compact text with blanks, all of which stand outside strings. -/
theorem squeeze_pretty (value : Json) : squeeze .outside (pretty 0 value) = compact value := by
  have whole := squeeze_laid .indented 0 [] value
  rwa [laid_indented, List.append_nil, squeeze, List.append_nil] at whole

end HouseStyle.Json
