import HouseStyle.Proofs.Word.BodyChildren

/-!
The text of a run. A run shows the character data of its text elements, but each of them is read no
further than its first child. So nothing is added and nothing changes places, and the text is whole
exactly if no text element has character data behind its first child: a comment or an instruction
in front of it or in the middle of it cuts the text off.
-/

namespace HouseStyle

/-- The beginnings of some parts are short of the parts by what the parts go on with. -/
theorem flatMap_append_sublist {Part Item : Type} (kept cut : Part → List Item)
    (parts : List Part) :
    (parts.flatMap kept).Sublist (parts.flatMap fun part => kept part ++ cut part) := by
  induction parts with
  | nil => exact .slnil
  | cons part rest ih =>
    rw [List.flatMap_cons, List.flatMap_cons]
    exact (List.sublist_append_left _ _).append ih

theorem flatMap_eq_append_iff {Part Item : Type} (kept cut : Part → List Item)
    (parts : List Part) : (parts.flatMap kept = parts.flatMap fun part => kept part ++ cut part) ↔
      ∀ part ∈ parts, cut part = [] := by
  induction parts with
  | nil => simp
  | cons part rest ih =>
    rw [List.flatMap_cons, List.flatMap_cons, List.append_assoc, List.append_cancel_left_eq,
      List.forall_mem_cons, ← ih]
    constructor
    · intro same
      have shorter := (flatMap_append_sublist kept cut rest).length_le
      have lengths := congrArg List.length same
      rw [List.length_append] at lengths
      have nothing : cut part = [] := List.eq_nil_of_length_eq_zero (by omega)
      exact ⟨nothing, by rw [same, nothing, List.nil_append]⟩
    · rintro ⟨nothing, same⟩
      rw [nothing, List.nil_append, same]

namespace Xml

def Node.characters : Node → List Char
  | .text content => content.toList
  | _ => []

namespace Element

def characterData (element : Element) : List Char := element.children.flatMap Node.characters

def laterData (element : Element) : List Char := element.children.tail.flatMap Node.characters

theorem characterData_eq (element : Element) : element.characterData =
    (element.leadingText?.getD "").toList ++ element.laterData := by
  rw [characterData, laterData, leadingText?]
  cases element.children with
  | nil => rfl
  | cons first rest => cases first <;> rfl

end Element

end Xml

namespace Word

open Xml (Element wordName)

theorem text_run (element : Element) : (run element).text.toList =
    (element.words "t").flatMap fun text => (text.leadingText?.getD "").toList := by
  rw [run, String.toList_join, List.filterMap_eq_flatMap_toList, List.flatMap_assoc]
  congr 1
  funext text
  cases text.leadingText? <;> simp

/--
The text of a run is some of the character data of its text elements, in the order of the document,
and all of it exactly if no text element has any behind its first child.
-/
theorem text_whole_iff (element : Element) :
    (run element).text.toList.Sublist ((element.words "t").flatMap Element.characterData) ∧
    ((run element).text = String.ofList ((element.words "t").flatMap Element.characterData) ↔
      ∀ text ∈ element.words "t", text.laterData = []) := by
  have parted : (element.words "t").flatMap Element.characterData =
      (element.words "t").flatMap fun text =>
        (text.leadingText?.getD "").toList ++ text.laterData := by
    congr 1
    exact funext Element.characterData_eq
  rw [parted, ← String.toList_inj, String.toList_ofList, text_run]
  exact ⟨flatMap_append_sublist _ _ _, flatMap_eq_append_iff _ _ _⟩

def remarked : Element :=
  ⟨⟨wordName "r", []⟩, [.element ⟨wordName "t", []⟩ [.text "a", .comment "c", .text "b"]]⟩

set_option maxRecDepth 20000 in
theorem remarked_text_cut :
    Xml.parse (Xml.rooted ["<w:r><w:t>a", "<!--c-->b", "</w:t></w:r>"]) =
      .ok (Element.rooted [remarked.node]) ∧
    (run remarked).text ≠
      String.ofList ((remarked.words "t").flatMap Element.characterData) := by
  exact ⟨Xml.parse_ofList _ _ rfl, by decide +kernel⟩

end Word

end HouseStyle
