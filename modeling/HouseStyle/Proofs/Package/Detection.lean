import HouseStyle.Package.Format
import HouseStyle.Proofs.Package.Stages

/-!
Telling the format of some bytes and opening them as a package, which look at an archive in two
ways: the one asks whether its directory lists a name, the other looks the part up and reads it.
They agree on what is a document package at all. A file is asked for its first four bytes on their
own, and that too comes to the same as asking all of its bytes.
-/

namespace HouseStyle

namespace Bytes

theorem hasAt_extract (bytes : ByteArray) (stop place : Nat) (expected : List UInt8)
    (inside : place + expected.length ≤ stop) :
    hasAt (bytes.extract 0 stop) place expected = hasAt bytes place expected := by
  induction expected generalizing place with
  | nil => rfl
  | cons byte rest ih =>
    rw [List.length_cons] at inside
    have same : (bytes.extract 0 stop)[place]? = bytes[place]? := by
      by_cases held : place < bytes.size
      · have kept : place < (bytes.extract 0 stop).size := by
          rw [ByteArray.size_extract]
          omega
        rw [getElem?_pos bytes place held, getElem?_pos _ place kept, ByteArray.getElem_extract]
        simp only [Nat.zero_add]
      · have gone : ¬ place < (bytes.extract 0 stop).size := by
          rw [ByteArray.size_extract]
          omega
        rw [getElem?_neg bytes place held, getElem?_neg _ place gone]
    rw [hasAt, hasAt, same, ih (place + 1) (by omega)]

theorem length_le_of_hasAt (bytes : ByteArray) (place : Nat) (expected : List UInt8)
    (found : hasAt bytes place expected = true) : expected.length ≤ bytes.size - place := by
  induction expected generalizing place with
  | nil => exact Nat.zero_le _
  | cons byte rest ih =>
    rw [hasAt, Bool.and_eq_true, decide_eq_true_eq] at found
    have held : place < bytes.size := by
      rw [getElem?_eq_some_iff] at found
      exact found.1.1
    have further := ih (place + 1) found.2
    rw [List.length_cons]
    omega

end Bytes

namespace Archive

theorem find?_isSome (archive : Archive) (name : String) :
    (archive.find? name).isSome = archive.contains name := by
  rw [find?, contains, List.findRev?_eq_find?_reverse, List.isSome_find?, List.any_reverse]

theorem part?_isSome (archive : Archive) (name : String) :
    (archive.part? name).isSome = archive.contains name := by
  rw [part?, Option.isSome_map, find?_isSome]

end Archive

namespace Format

-- The header is long enough to hold the magic, and bytes that are shorter hold none.
theorem ofFile_eq_ofBytes (contents : ByteArray) : ofFile contents = ofBytes contents := by
  rw [ofFile, header?, ofBytes]
  by_cases long : 4 ≤ contents.size
  · have same : Archive.hasMagic (contents.extract 0 4) = Archive.hasMagic contents :=
      Bytes.hasAt_extract contents 4 0 Archive.localSignature (by decide)
    rw [if_pos long]
    simp only [same]
  · have none : Archive.hasMagic contents = false := by
      rw [← Bool.not_eq_true]
      intro magic
      exact long (Bytes.length_le_of_hasAt contents 0 Archive.localSignature magic)
    rw [if_neg long, none]
    rfl

theorem inspect_of_archive (bytes : ByteArray) (archive : Archive)
    (opened : Archive.ofBytes bytes = .ok archive) :
    inspect bytes =
      if archive.contains Package.textPart then
        .ok ⟨archive.names.size, archive.contains Package.stylesPart⟩
      else .error .unknownFormat := by
  rw [inspect, opened]
  cases listed : archive.contains Package.textPart with
  | false => simp [ofArchive?, listed]
  | true => simp [ofArchive?, listed]

/-- Bytes have a format when they are an archive whose directory lists the text. -/
theorem ofBytes_ok_iff (bytes : ByteArray) (format : Format) :
    ofBytes bytes = .ok format ↔
      Archive.hasMagic bytes = true ∧ ∃ archive, Archive.ofBytes bytes = .ok archive ∧
        archive.contains Package.textPart = true ∧
        format = ⟨archive.names.size, archive.contains Package.stylesPart⟩ := by
  rw [ofBytes]
  cases magic : Archive.hasMagic bytes with
  | false => simp
  | true =>
    cases opened : Archive.ofBytes bytes with
    | error fault => simp [inspect, opened]
    | ok archive =>
      rw [if_pos rfl, inspect_of_archive bytes archive opened]
      cases listed : archive.contains Package.textPart with
      | false => simp [listed]
      | true => simp [listed, eq_comm (a := format)]

end Format

namespace Package

theorem text_fault (archive : Archive) (entry : Archive.Entry) (error : PackageError)
    (failed : archive.text entry = .error error) :
    error ≠ .unknownFormat ∧ ∀ name, error ≠ .missingPart name := by
  unfold Archive.text at failed
  split at failed
  · cases failed
    exact ⟨nofun, nofun⟩
  · cases failed
    exact ⟨nofun, nofun⟩
  · split at failed
    · cases failed
      exact ⟨nofun, nofun⟩
    · cases failed

theorem part?_fault (archive : Archive) (name : String) (error : PackageError)
    (failed : archive.part? name = some (.error error)) :
    error ≠ .unknownFormat ∧ ∀ other, error ≠ .missingPart other := by
  obtain ⟨entry, _, unread⟩ := Option.map_eq_some_iff.mp failed
  exact text_fault archive entry error unread

theorem assemble_ok (text styles : Option (Except PackageError String)) (package : Package)
    (made : assemble text styles = .ok package) :
    text = some (.ok package.text) ∧ styles = package.styles.map .ok := by
  unfold assemble at made
  split at made <;> cases made <;> exact ⟨rfl, rfl⟩

theorem assemble_error (text styles : Option (Except PackageError String)) (error : PackageError)
    (present : text.isSome = true) (failed : assemble text styles = .error error) :
    text = some (.error error) ∨ styles = some (.error error) := by
  unfold assemble at failed
  split at failed
  · cases present
  · cases failed
    exact .inl rfl
  · cases failed
  · cases failed
    exact .inr rfl
  · cases failed

theorem ofBytes_of_not_listed (bytes : ByteArray) (archive : Archive)
    (magic : Archive.hasMagic bytes = true) (opened : Archive.ofBytes bytes = .ok archive)
    (unlisted : archive.contains textPart = false) :
    ofBytes bytes = .error (.missingPart textPart) := by
  have absent : archive.part? textPart = none := by
    rw [← Option.not_isSome_iff_eq_none, Archive.part?_isSome, unlisted]
    exact Bool.false_ne_true
  rw [ofBytes_of_archive bytes archive magic opened, ofArchive_eq_assemble, absent]
  rfl

/-- A package that opens has a format, which tells whether its styles were found. -/
theorem format_of_opened (bytes : ByteArray) (package : Package)
    (made : ofBytes bytes = .ok package) :
    ∃ format, Format.ofBytes bytes = .ok format ∧
      (format.hasStyles = true ↔ package.styles.isSome = true) := by
  cases magic : Archive.hasMagic bytes with
  | false => simp [ofBytes, magic] at made
  | true =>
    cases opened : Archive.ofBytes bytes with
    | error fault =>
      rw [ofBytes, magic, opened] at made
      cases made
    | ok archive =>
      rw [ofBytes_of_archive bytes archive magic opened, ofArchive_eq_assemble] at made
      obtain ⟨text, styles⟩ := assemble_ok _ _ package made
      have listed : archive.contains textPart = true := by
        rw [← Archive.part?_isSome, text]
        rfl
      have found : archive.contains stylesPart = package.styles.isSome := by
        rw [← Archive.part?_isSome, styles, Option.isSome_map]
      refine ⟨⟨archive.names.size, archive.contains stylesPart⟩, ?_, by rw [found]⟩
      exact (Format.ofBytes_ok_iff bytes _).mpr ⟨magic, archive, opened, listed, rfl⟩

/-- What is listed is there, so only its contents can still be at fault. -/
theorem fault_of_format (bytes : ByteArray) (format : Format) (error : PackageError)
    (told : Format.ofBytes bytes = .ok format) (failed : ofBytes bytes = .error error) :
    error ≠ .unknownFormat ∧ ∀ name, error ≠ .missingPart name := by
  obtain ⟨magic, archive, opened, listed, _⟩ := (Format.ofBytes_ok_iff bytes format).mp told
  rw [ofBytes_of_archive bytes archive magic opened, ofArchive_eq_assemble] at failed
  rw [← Archive.part?_isSome] at listed
  rcases assemble_error _ _ error listed failed with text | styles
  · exact part?_fault archive textPart error text
  · exact part?_fault archive stylesPart error styles

theorem fault_of_no_format (bytes : ByteArray) (refusal : PackageError)
    (told : Format.ofBytes bytes = .error refusal) :
    ∃ error, ofBytes bytes = .error error ∧
      (error = .unknownFormat ∨ (∃ fault, error = .archive fault) ∨
        error = .missingPart textPart) := by
  cases magic : Archive.hasMagic bytes with
  | false =>
    refine ⟨.unknownFormat, ?_, .inl rfl⟩
    rw [ofBytes, magic]
    rfl
  | true =>
    cases opened : Archive.ofBytes bytes with
    | error fault =>
      refine ⟨.archive fault, ?_, .inr (.inl ⟨fault, rfl⟩)⟩
      rw [ofBytes, magic, opened]
      rfl
    | ok archive =>
      cases listed : archive.contains textPart with
      | false =>
        refine ⟨.missingPart textPart, ?_, .inr (.inr rfl)⟩
        exact ofBytes_of_not_listed bytes archive magic opened listed
      | true =>
        have held := (Format.ofBytes_ok_iff bytes _).mpr ⟨magic, archive, opened, listed, rfl⟩
        rw [held] at told
        cases told

/--
Telling the format and opening agree on all bytes: what opens has a format, which knows of the
styles; what has a format is never refused as no package; and what has none does not open, for one
of the three reasons that deny a package. A file has the format of its bytes, however short it is.
-/
theorem format_agrees_with_opening (bytes : ByteArray) :
    (∀ package, ofBytes bytes = .ok package → ∃ format, Format.ofBytes bytes = .ok format ∧
      (format.hasStyles = true ↔ package.styles.isSome = true)) ∧
    (∀ format error, Format.ofBytes bytes = .ok format → ofBytes bytes = .error error →
      error ≠ .unknownFormat ∧ ∀ name, error ≠ .missingPart name) ∧
    (∀ refusal, Format.ofBytes bytes = .error refusal → ∃ error, ofBytes bytes = .error error ∧
      (error = .unknownFormat ∨ (∃ fault, error = .archive fault) ∨
        error = .missingPart textPart)) ∧
    Format.ofSource (.file bytes) = Format.ofBytes bytes := by
  refine ⟨format_of_opened bytes, fault_of_format bytes, fault_of_no_format bytes, ?_⟩
  exact Format.ofFile_eq_ofBytes bytes

def hollow (flags : UInt8) : ByteArray :=
  let name : List UInt8 := textPart.toList.map fun char => char.toNat.toUInt8
  let fields : List UInt8 := [20, 0, flags] ++ List.replicate 19 0 ++ [17, 0, 0, 0]
  ⟨(Archive.localSignature ++ fields ++ name ++
    Archive.directorySignature ++ [20, 0] ++ fields ++ List.replicate 14 0 ++ name ++
    Archive.endSignature ++ [0, 0, 0, 0, 1, 0, 1, 0, 63, 0, 0, 0, 47, 0, 0, 0, 0, 0]).toArray⟩

-- The first flag asks for a password, so the same archive is told for a package but not opened.
set_option maxRecDepth 100000 in
theorem hollow_formats :
    (∃ package format, ofBytes (hollow 0) = .ok package ∧ Format.ofBytes (hollow 0) = .ok format ∧
      (format.hasStyles = true ↔ package.styles.isSome = true)) ∧
    (∃ format error, Format.ofBytes (hollow 1) = .ok format ∧ ofBytes (hollow 1) = .error error ∧
      error ≠ .unknownFormat) ∧
    ∃ error, Format.ofBytes ⟨#[0x50, 0x4B, 0x03]⟩ = .error .unknownFormat ∧
      ofBytes ⟨#[0x50, 0x4B, 0x03]⟩ = .error error := by
  obtain ⟨package, opens⟩ : ∃ package, ofBytes (hollow 0) = .ok package :=
    (refusal?_eq_none_iff _).mp (by decide +kernel)
  have guarded : ofBytes (hollow 1) = .error (.archive (.unsupported .password)) :=
    (refusal?_eq_some_iff _ _).mp (by decide +kernel)
  obtain ⟨listed, told⟩ : ∃ format, Format.ofBytes (hollow 1) = .ok format :=
    (refusal?_eq_none_iff _).mp (by decide +kernel)
  have cut : Format.ofBytes ⟨#[0x50, 0x4B, 0x03]⟩ = .error .unknownFormat :=
    (refusal?_eq_some_iff _ _).mp (by decide +kernel)
  obtain ⟨format, held, styles⟩ := (format_agrees_with_opening (hollow 0)).1 package opens
  have read := (format_agrees_with_opening (hollow 1)).2.1 listed _ told guarded
  obtain ⟨error, failed, _⟩ := (format_agrees_with_opening ⟨#[0x50, 0x4B, 0x03]⟩).2.2.1 _ cut
  exact ⟨⟨package, format, opens, held, styles⟩, ⟨listed, _, told, guarded, read.1⟩,
    error, cut, failed⟩

end Package

end HouseStyle
