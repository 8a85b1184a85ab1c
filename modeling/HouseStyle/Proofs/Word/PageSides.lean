import HouseStyle.Proofs.Number.Spelling
import HouseStyle.Word
import Mathlib.Data.List.Basic

/-!
The sides of a page. Every side has a label, and the left and the right one have a second label,
which counts where the first gives no length. A whole number of twentieths of a point is a length
exactly if it fits a word in English Metric Units: nothing wraps round, a number that does not fit
is as good as none, and no side looks at a label of another.
-/

namespace HouseStyle

structure Length.Measures (length : Length) (count : Int) : Prop where
  emu : length.emu = 635 * count
  low : -0x8000000000000000 ≤ 635 * count
  high : 635 * count < 0x8000000000000000

theorem Length.ofTwips?_eq_some_iff (count : Int) (length : Length) :
    ofTwips? count = some length ↔ length.Measures count := by
  rw [ofTwips?, Range.only?, emuPerTwip, Int.mul_comm]
  by_cases fits : Range.signed64.contains (635 * count) = true
  · rw [if_pos fits, Option.map_some, Option.some.injEq]
    rw [Range.contains_iff] at fits
    simp only [Range.signed64] at fits
    constructor
    · rintro rfl
      exact ⟨rfl, fits.1, by omega⟩
    · intro measures
      rw [← measures.emu]
  · rw [if_neg fits, Option.map_none]
    refine iff_of_false (by simp) fun measures => fits ?_
    rw [Range.contains_iff]
    exact ⟨measures.low, Int.le_of_lt_add_one measures.high⟩

theorem Twips.parse?_of_writes (text : String) (count : Int)
    (writes : Numeral.Writes (Text.trim text.toList) count)
    (fits : Range.signed64.contains count = true) : parse? text = some count := by
  have read : (Numeral.integer? (Text.trim text.toList)).bind Range.signed64.only? =
      some count := by
    rw [(Numeral.integer?_eq_some_iff _ count).mpr writes, Option.bind_some, Range.only?,
      if_pos fits]
  rw [parse?]
  simp only [read]

inductive Side where
  | top
  | bottom
  | left
  | right

/-- The labels of a side; each counts where those in front of it give no length. -/
def Side.labels : Side → List String
  | top => ["top"]
  | bottom => ["bottom"]
  | left => ["left", "start"]
  | right => ["right", "end"]

def Margins.side? (margins : Margins) : Side → Option Length
  | .top => margins.top
  | .bottom => margins.bottom
  | .left => margins.left
  | .right => margins.right

theorem Margins.eq_sides (margins : Margins) :
    margins = ⟨margins.side? .top, margins.side? .bottom, margins.side? .left,
      margins.side? .right⟩ := rfl

theorem Side.labels_disjoint (side other : Side) (apart : other ≠ side) :
    ∀ label ∈ other.labels, label ∉ side.labels := by
  cases side <;> cases other <;> first | exact absurd rfl apart | decide

namespace Word

open Xml (Element)

/-- Under a label stands nothing, or a whole number that fits a word, with or without blanks. -/
inductive Told (margins : Element) (label : String) : Option Int → Prop
  | nothing (unlabelled : margins.value? label = none) : Told margins label none
  | whole {text : String} {count : Int} (labelled : margins.value? label = some text)
      (writes : Numeral.Writes (Text.trim text.toList) count)
      (low : -0x8000000000000000 ≤ count) (high : count < 0x8000000000000000) :
      Told margins label (some count)

def Measured (count? : Option Int) (length : Length) : Prop :=
  ∃ count, count? = some count ∧ length.Measures count

def FirstMeasured (labels : List String) (counts : String → Option Int) (length : Length) : Prop :=
  ∃ passed label behind, labels = passed ++ label :: behind ∧ Measured (counts label) length ∧
    ∀ earlier ∈ passed, ∀ other, ¬Measured (counts earlier) other

theorem side?_eq_bind (margins : Element) (label : String) (count? : Option Int)
    (told : Told margins label count?) : side? margins label = count?.bind Length.ofTwips? := by
  cases told with
  | nothing unlabelled => rw [side?, unlabelled, Option.bind_none]
  | @whole text count labelled writes low high =>
    have fits : Range.signed64.contains count = true := by
      rw [Range.contains_iff]
      exact ⟨low, Int.le_of_lt_add_one high⟩
    rw [side?, labelled, Option.bind_some, Twips.parse?_of_writes text count writes fits]

theorem side?_margins (element : Element) (side : Side) :
    (margins element).side? side = side.labels.findSome? (Word.side? element) := by
  have first_or : ∀ first second, (Word.side? element first).or (Word.side? element second) =
      [first, second].findSome? (Word.side? element) := by
    intro first second
    cases found : Word.side? element first <;> simp [found]
  cases side with
  | top => simp [Margins.side?, margins, Side.labels]
  | bottom => simp [Margins.side?, margins, Side.labels]
  | left => exact first_or "left" "start"
  | right => exact first_or "right" "end"

theorem side?_eq_some_iff (margins : Element) (label : String) (count? : Option Int)
    (told : Told margins label count?) (length : Length) :
    side? margins label = some length ↔ Measured count? length := by
  rw [side?_eq_bind margins label count? told, Option.bind_eq_some_iff, Measured]
  simp only [Length.ofTwips?_eq_some_iff]

theorem side?_eq_none_iff (margins : Element) (label : String) (count? : Option Int)
    (told : Told margins label count?) :
    side? margins label = none ↔ ∀ length, ¬Measured count? length := by
  rw [Option.eq_none_iff_forall_ne_some]
  simp only [ne_eq, side?_eq_some_iff margins label count? told]

theorem findSome?_side?_iff (margins : Element) (counts : String → Option Int)
    (labels : List String) (length : Length)
    (told : ∀ label ∈ labels, Told margins label (counts label)) :
    labels.findSome? (side? margins) = some length ↔ FirstMeasured labels counts length := by
  rw [List.findSome?_eq_some_iff]
  refine exists_congr fun passed => exists_congr fun label => exists_congr fun behind =>
    and_congr_right fun parts => and_congr ?_ (forall₂_congr fun earlier member => ?_)
  · exact side?_eq_some_iff margins label _ (told label (by simp [parts])) length
  · exact side?_eq_none_iff margins earlier _ (told earlier (by simp [parts, member]))

theorem margins_pageSection (properties margins : Element)
    (found : properties.word? "pgMar" = some margins) :
    (pageSection properties).margins = Word.margins margins := by
  rw [pageSection, found, Option.map_some, Option.getD_some]

/--
The margins of a section under whose labels stand whole numbers or nothing. Each side has the length
of its first label whose number has one, and no length if there is none. Whatever is done to the
labels of one side, the other three sides stay as they are.
-/
theorem sides_measured (properties margins : Element) (counts : String → Option Int)
    (found : properties.word? "pgMar" = some margins)
    (told : ∀ side : Side, ∀ label ∈ side.labels, Told margins label (counts label)) :
    (∀ (side : Side) (length : Length),
      (pageSection properties).margins.side? side = some length ↔
        FirstMeasured side.labels counts length) ∧
    ∀ (changed others : Element) (side kept : Side), changed.word? "pgMar" = some others →
      (∀ label, label ∉ side.labels → others.value? label = margins.value? label) →
      kept ≠ side →
      (pageSection changed).margins.side? kept = (pageSection properties).margins.side? kept := by
  constructor
  · intro side length
    rw [margins_pageSection properties margins found, side?_margins]
    exact findSome?_side?_iff margins counts side.labels length (told side)
  · intro changed others side kept foundToo same apart
    rw [margins_pageSection properties margins found, margins_pageSection changed others foundToo,
      side?_margins, side?_margins, ← List.head?_filterMap, ← List.head?_filterMap]
    congr 1
    apply List.filterMap_congr
    intro label member
    rw [Word.side?, Word.side?, same label (side.labels_disjoint kept apart label member)]

open Xml (Attribute wordName)

def marginsElement (sides : List (String × String)) : Element :=
  ⟨⟨wordName "pgMar", sides.map fun side => ⟨wordName side.1, side.2⟩⟩, []⟩

def sectionElement (sides : List (String × String)) : Element :=
  ⟨⟨wordName "sectPr", []⟩, [.element (marginsElement sides).tag []]⟩

/-- The bottom is one twentieth past the lowest length, the left side far past the highest. -/
def unevenSides : List (String × String) :=
  [("top", " +0720\u2003"), ("bottom", "-14524995333629569"), ("left", "9223372036854775807"),
    ("start", "\t-5"), ("end", "14524995333629568")]

def wideSides : List (String × String) :=
  unevenSides.map fun side => if side.1 = "left" then ("left", "wide") else side

def unevenCounts (label : String) : Option Int :=
  [("top", 720), ("bottom", -14524995333629569), ("left", 9223372036854775807), ("start", -5),
    ("end", 14524995333629568)].lookup label

theorem told_of_integer? (margins : Element) (label text : String) (count : Int)
    (labelled : margins.value? label = some text)
    (read : Numeral.integer? (Text.trim text.toList) = some count)
    (fits : Range.signed64.contains count = true) : Told margins label (some count) := by
  obtain ⟨low, high⟩ := (Range.contains_iff _ _).mp fits
  exact .whole labelled ((Numeral.integer?_eq_some_iff _ _).mp read) low
    (Int.lt_add_one_of_le high)

theorem unevenSides_told (side : Side) :
    ∀ label ∈ side.labels, Told (marginsElement unevenSides) label (unevenCounts label) := by
  have whole := told_of_integer? (marginsElement unevenSides)
  cases side with
  | top =>
    exact List.forall_mem_singleton.mpr
      (whole "top" " +0720\u2003" 720 rfl (by decide +kernel) rfl)
  | bottom =>
    exact List.forall_mem_singleton.mpr
      (whole "bottom" "-14524995333629569" (-14524995333629569) rfl (by decide +kernel) rfl)
  | left =>
    exact List.forall_mem_cons.mpr
      ⟨whole "left" "9223372036854775807" 9223372036854775807 rfl (by decide +kernel) rfl,
        List.forall_mem_singleton.mpr (whole "start" "\t-5" (-5) rfl (by decide +kernel) rfl)⟩
  | right =>
    exact List.forall_mem_cons.mpr
      ⟨.nothing rfl, List.forall_mem_singleton.mpr
        (whole "end" "14524995333629568" 14524995333629568 rfl (by decide +kernel) rfl)⟩

theorem unevenCounts_top : FirstMeasured Side.top.labels unevenCounts ⟨457200⟩ :=
  ⟨[], "top", [], rfl, ⟨720, rfl, by decide, by decide, by decide⟩, by simp⟩

theorem unevenCounts_left : FirstMeasured Side.left.labels unevenCounts ⟨-3175⟩ := by
  refine ⟨["left"], "start", [], rfl, ⟨-5, rfl, by decide, by decide, by decide⟩, ?_⟩
  rintro earlier member other ⟨count, said, measures⟩
  rw [List.mem_singleton.mp member] at said
  cases said
  exact absurd measures.high (by decide)

theorem unevenCounts_right :
    FirstMeasured Side.right.labels unevenCounts ⟨9223372036854775680⟩ := by
  refine ⟨["right"], "end", [], rfl, ⟨_, rfl, by decide, by decide, by decide⟩, ?_⟩
  rintro earlier member other ⟨count, said, -⟩
  rw [List.mem_singleton.mp member] at said
  cases said

theorem unevenCounts_bottom (length : Length) :
    ¬FirstMeasured Side.bottom.labels unevenCounts length := by
  rintro ⟨passed, label, behind, parts, ⟨count, said, measures⟩, -⟩
  have member : label ∈ Side.bottom.labels := by simp [parts]
  rw [List.mem_singleton.mp member] at said
  cases said
  exact absurd measures.low (by decide)

theorem value?_wideSides (label : String) (unlisted : label ∉ Side.left.labels) :
    (marginsElement wideSides).value? label = (marginsElement unevenSides).value? label := by
  have unequal : "left" ≠ label := by
    rintro rfl
    exact unlisted List.mem_cons_self
  simp [marginsElement, wideSides, unevenSides, Element.value?, List.find?_cons, wordName, unequal]

/--
The left side falls back on its second label. The right one has only its second label, which the
word on the left does not touch.
-/
theorem uneven_sides_measured :
    (∀ side : Side, ∀ label ∈ side.labels,
      Told (marginsElement unevenSides) label (unevenCounts label)) ∧
    (pageSection (sectionElement unevenSides)).margins =
      ⟨some ⟨457200⟩, none, some ⟨-3175⟩, some ⟨9223372036854775680⟩⟩ ∧
    (pageSection (sectionElement wideSides)).margins.side? .right = some ⟨9223372036854775680⟩ := by
  obtain ⟨measured, apart⟩ := sides_measured (sectionElement unevenSides)
    (marginsElement unevenSides) unevenCounts rfl unevenSides_told
  have top := (measured .top _).mpr unevenCounts_top
  have left := (measured .left _).mpr unevenCounts_left
  have right := (measured .right _).mpr unevenCounts_right
  have bottom : (pageSection (sectionElement unevenSides)).margins.side? .bottom = none :=
    Option.eq_none_iff_forall_ne_some.mpr fun length found =>
      unevenCounts_bottom length ((measured .bottom length).mp found)
  refine ⟨unevenSides_told, ?_, ?_⟩
  · exact (Margins.eq_sides _).trans (by rw [top, bottom, left, right])
  · rw [apart (sectionElement wideSides) (marginsElement wideSides) .left .right rfl
      value?_wideSides (by simp), right]

end Word

end HouseStyle
