import HouseStyle.Json.Reader
import HouseStyle.Proofs.Json.Layouts

/-!
Reading what was written. Any layout of a value scans to the tokens of the value, and the tokens are
put together to the value again; one step for each token is enough. So a text says which value it
was written for, in either layout.
-/

namespace HouseStyle.Json

mutual

def tokens : Json → List Token
  | null => [.value null]
  | bool value => [.value (bool value)]
  | integer number => [.value (integer number)]
  | decimal number => [.value (decimal number)]
  | text content => [.value (text content)]
  | list [] => [.mark '[', .mark ']']
  | list (first :: rest) => .mark '[' :: tokens first ++ itemTokens rest
  | object [] => [.mark '\x7b', .mark '\x7d']
  | object ((key, value) :: rest) =>
    .mark '\x7b' :: .value (text key) :: .mark ':' :: tokens value ++ memberTokens rest

def itemTokens : List Json → List Token
  | [] => [.mark ']']
  | item :: rest => .mark ',' :: tokens item ++ itemTokens rest

def memberTokens : List (String × Json) → List Token
  | [] => [.mark '\x7d']
  | (key, value) :: rest =>
    .mark ',' :: .value (text key) :: .mark ':' :: tokens value ++ memberTokens rest

end

namespace Token

variable {rest : List Char} {more : List Token}

/-! Scanning a layout. -/

theorem ends_of_mark (char : Char) (text : List Char) (known : isMark char = true) :
    Ends (char :: text) := by
  rintro other ⟨⟩
  simp only [isMark, Bool.or_eq_true, decide_eq_true_eq] at known
  rcases known with ((((rfl | rfl) | rfl) | rfl) | rfl) | rfl <;> decide

theorem ends_of_blank (char : Char) (text : List Char) (blank : isBlank char = true) :
    Ends (char :: text) := by
  rintro other ⟨⟩
  simp only [isBlank, Bool.or_eq_true, decide_eq_true_eq] at blank
  rcases blank with ((rfl | rfl) | rfl) | rfl <;> decide

theorem ends_of_gap (gap text : List Char) (blank : ∀ char ∈ gap, isBlank char = true)
    (ends : Ends text) : Ends (gap ++ text) := by
  cases gap with
  | nil => exact ends
  | cons char others => exact ends_of_blank char _ (blank char List.mem_cons_self)

theorem ends_laidItems (gaps : Gaps) (level : Nat) (items : List Json) :
    Ends (laidItems gaps level items ++ rest) := by
  cases items with
  | nil =>
    rw [laidItems, List.append_assoc]
    exact ends_of_gap _ _ (gaps.line_blank level) (ends_of_mark ']' _ rfl)
  | cons item others => exact ends_of_mark ',' _ rfl

theorem ends_laidMembers (gaps : Gaps) (level : Nat) (members : List (String × Json)) :
    Ends (laidMembers gaps level members ++ rest) := by
  cases members with
  | nil =>
    rw [laidMembers, List.append_assoc]
    exact ends_of_gap _ _ (gaps.line_blank level) (ends_of_mark '\x7d' _ rfl)
  | cons member others => exact ends_of_mark ',' _ rfl

mutual

theorem scans_laid (gaps : Gaps) (level : Nat) (rest : List Char) (more : List Token)
    (ends : Ends rest) (later : Scans rest more) :
    ∀ written : Json, Scans (laid gaps level written ++ rest) (tokens written ++ more)
  | null =>
    scans_word 'n' ['u', 'l', 'l'] null (List.all_eq_true.mp rfl) (by decide) rfl ends later
  | bool true =>
    scans_word 't' ['r', 'u', 'e'] (bool true) (List.all_eq_true.mp rfl) (by decide) rfl ends later
  | bool false =>
    scans_word 'f' ['a', 'l', 's', 'e'] (bool false) (List.all_eq_true.mp rfl) (by decide) rfl ends
      later
  | integer number =>
    scans_number (integerText number) (integer number) (integerText_ne_nil number)
      (isNumberChar_of_integerText number) (number?_integerText number) ends later
  | decimal number =>
    scans_number (decimalText number) (decimal number) (decimalText_ne_nil number)
      (isNumberChar_of_decimalText number) (number?_decimalText number) ends later
  | text content => scans_quoted content later
  | list [] => scans_mark '[' rfl (scans_mark ']' rfl later)
  | list (first :: others) => by
    simp only [laid, tokens, List.cons_append, List.append_assoc]
    refine scans_mark '[' rfl (scans_blanks _ (gaps.line_blank (level + 1)) ?_)
    exact scans_laid gaps (level + 1) _ _ (ends_laidItems gaps level others)
      (scans_laidItems gaps level rest more later others) first
  | object [] => scans_mark '\x7b' rfl (scans_mark '\x7d' rfl later)
  | object ((key, held) :: others) => by
    simp only [laid, tokens, List.cons_append, List.append_assoc]
    refine scans_mark '\x7b' rfl (scans_blanks _ (gaps.line_blank (level + 1)) ?_)
    refine scans_quoted key (scans_mark ':' rfl (scans_blanks _ gaps.space_blank ?_))
    exact scans_laid gaps (level + 1) _ _ (ends_laidMembers gaps level others)
      (scans_laidMembers gaps level rest more later others) held

theorem scans_laidItems (gaps : Gaps) (level : Nat) (rest : List Char) (more : List Token)
    (later : Scans rest more) :
    ∀ items : List Json, Scans (laidItems gaps level items ++ rest) (itemTokens items ++ more)
  | [] => by
    rw [laidItems, List.append_assoc]
    exact scans_blanks _ (gaps.line_blank level) (scans_mark ']' rfl later)
  | item :: others => by
    simp only [laidItems, itemTokens, List.cons_append, List.append_assoc]
    refine scans_mark ',' rfl (scans_blanks _ (gaps.line_blank (level + 1)) ?_)
    exact scans_laid gaps (level + 1) _ _ (ends_laidItems gaps level others)
      (scans_laidItems gaps level rest more later others) item

theorem scans_laidMembers (gaps : Gaps) (level : Nat) (rest : List Char) (more : List Token)
    (later : Scans rest more) :
    ∀ members : List (String × Json),
      Scans (laidMembers gaps level members ++ rest) (memberTokens members ++ more)
  | [] => by
    rw [laidMembers, List.append_assoc]
    exact scans_blanks _ (gaps.line_blank level) (scans_mark '\x7d' rfl later)
  | (key, held) :: others => by
    simp only [laidMembers, memberTokens, List.cons_append, List.append_assoc]
    refine scans_mark ',' rfl (scans_blanks _ (gaps.line_blank (level + 1)) ?_)
    refine scans_quoted key (scans_mark ':' rfl (scans_blanks _ gaps.space_blank ?_))
    exact scans_laid gaps (level + 1) _ _ (ends_laidMembers gaps level others)
      (scans_laidMembers gaps level rest more later others) held

end

theorem ofText?_laid (gaps : Gaps) (written : Json) :
    ofText? (laid gaps 0 written) = some (tokens written) := by
  have ends : Ends [] := by
    intro char first
    contradiction
  have scanned := scans_laid gaps 0 [] [] ends scans_nil written
  rw [List.append_nil, List.append_nil] at scanned
  exact scanned _ (Nat.le_refl _)

end Token

/-! Putting the tokens together. -/

theorem tokens_begin (value : Json) :
    ∃ first others, tokens value = first :: others ∧ first ≠ .mark ']' := by
  cases value with
  | list items => cases items <;> exact ⟨_, _, rfl, by simp⟩
  | object members => cases members <;> exact ⟨_, _, rfl, by simp⟩
  | _ => exact ⟨_, _, rfl, by simp⟩

theorem tokens_length_pos (value : Json) : 0 < (tokens value).length := by
  obtain ⟨first, others, begins, _⟩ := tokens_begin value
  simp [begins]

theorem ofTokens_list (steps : Nat) (value : Json) (rest : List Token) :
    ofTokens (steps + 1) (.mark '[' :: (tokens value ++ rest)) =
      (items steps (tokens value ++ rest)).map fun found => (list found.1, found.2) := by
  rw [ofTokens.eq_3]
  intro later same
  obtain ⟨first, others, begins, open_⟩ := tokens_begin value
  rw [begins, List.cons_append, List.cons.injEq] at same
  exact open_ same.1

mutual

theorem ofTokens_tokens (rest : List Token) :
    ∀ (value : Json) (steps : Nat), (tokens value).length ≤ steps →
      ofTokens steps (tokens value ++ rest) = some (value, rest)
  | null, _, _ => by simp [tokens, ofTokens]
  | bool _, _, _ => by simp [tokens, ofTokens]
  | integer _, _, _ => by simp [tokens, ofTokens]
  | decimal _, _, _ => by simp [tokens, ofTokens]
  | text _, _, _ => by simp [tokens, ofTokens]
  | list [], steps + 1, _ => rfl
  | list (first :: others), steps + 1, enough => by
    simp only [tokens, List.cons_append, List.length_cons, List.length_append] at enough ⊢
    rw [List.append_assoc, ofTokens_list, ← List.append_assoc,
      items_tokens rest first others steps (by simp only [List.length_append]; omega),
      Option.map_some]
  | object [], steps + 1, _ => rfl
  | object ((key, value) :: others), steps + 1, enough => by
    simp only [tokens, List.cons_append, List.length_cons, List.length_append] at enough ⊢
    have inside := members_tokens rest key value others steps
      (by simp only [List.length_cons, List.length_append]; omega)
    simp only [List.cons_append] at inside
    rw [ofTokens.eq_5 _ _ (by simp), inside, Option.map_some]

theorem items_tokens (rest : List Token) :
    ∀ (first : Json) (others : List Json) (steps : Nat),
      (tokens first ++ itemTokens others).length ≤ steps →
      items steps (tokens first ++ itemTokens others ++ rest) = some (first :: others, rest)
  | first, others, 0, enough => by
    have some_token := tokens_length_pos first
    simp only [List.length_append] at enough
    omega
  | first, [], steps + 1, enough => by
    simp only [itemTokens, List.length_append, List.length_cons] at enough ⊢
    rw [items, List.append_assoc, ofTokens_tokens _ first steps (by omega)]
    rfl
  | first, second :: others, steps + 1, enough => by
    simp only [itemTokens, List.length_append, List.length_cons] at enough
    have next := items_tokens rest second others steps (by simp only [List.length_append]; omega)
    simp only [itemTokens]
    rw [items, List.append_assoc, ofTokens_tokens _ first steps (by omega)]
    simp only [List.append_assoc, List.cons_append] at next ⊢
    rw [next, Option.map_some]

theorem members_tokens (rest : List Token) :
    ∀ (key : String) (value : Json) (others : List (String × Json)) (steps : Nat),
      (.value (text key) :: .mark ':' :: tokens value ++ memberTokens others).length ≤ steps →
      members steps
          (.value (text key) :: .mark ':' :: tokens value ++ memberTokens others ++ rest) =
        some ((key, value) :: others, rest)
  | key, value, others, 0, enough => by simp at enough
  | key, value, [], steps + 1, enough => by
    simp only [memberTokens, List.length_append, List.length_cons] at enough
    simp only [memberTokens, List.cons_append]
    rw [members, List.append_assoc, ofTokens_tokens _ value steps (by omega)]
    rfl
  | key, value, (next, second) :: others, steps + 1, enough => by
    simp only [memberTokens, List.length_append, List.length_cons, List.cons_append] at enough
    have later := members_tokens rest next second others steps
      (by simp only [List.length_append, List.length_cons]; omega)
    simp only [memberTokens, List.cons_append]
    rw [members, List.append_assoc, ofTokens_tokens _ value steps (by omega)]
    simp only [List.append_assoc, List.cons_append] at later ⊢
    rw [later, Option.map_some]

end

/-- Reading inverts rendering, whatever the value and the layout. -/
theorem read?_laid (gaps : Gaps) (value : Json) :
    read? (String.ofList (laid gaps 0 value)) = some value := by
  have whole := ofTokens_tokens [] value (tokens value).length (Nat.le_refl _)
  rw [List.append_nil] at whole
  rw [read?, String.toList_ofList, Token.ofText?_laid]
  simp only [Option.bind_eq_bind, Option.bind_some, whole]

theorem render_eq_laid (layout : Layout) (value : Json) :
    ∃ gaps : Gaps, render layout value = String.ofList (laid gaps 0 value) := by
  cases layout with
  | pretty => exact ⟨.indented, congrArg String.ofList (laid_indented 0 value).symm⟩
  | compact => exact ⟨.empty, congrArg String.ofList (laid_empty 0 value).symm⟩

theorem read?_render (layout : Layout) (value : Json) :
    read? (render layout value) = some value := by
  obtain ⟨gaps, written⟩ := render_eq_laid layout value
  rw [written, read?_laid]

theorem render_injective (layout : Layout) : Function.Injective (render layout) := by
  intro left right same
  have read := read?_render layout left
  rw [same, read?_render] at read
  exact (Option.some.inj read).symm

end HouseStyle.Json
