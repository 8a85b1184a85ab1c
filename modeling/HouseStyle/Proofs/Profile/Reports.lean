import HouseStyle.Proofs.Json.RoundTrip
import HouseStyle.Proofs.Profile.Members
import HouseStyle.Report

/-!
What the text of a report tells. A report says by its keys alone whether it is a profile or a
failure: every key of a profile is one of its fields or begins like those of fonts, whatever the
labels of the fonts are, and the key of a failure is neither.
-/

namespace HouseStyle

namespace Profile

variable (profile : Profile) (entry : String × Json)

theorem font_key_apart (font : entry ∈ profile.fonts.members) : entry.1 ∉ fieldKeys := by
  intro known
  have begins := profile.fonts.isFontKey_of_mem entry font
  rw [no_font_key entry.1 known] at begins
  contradiction

theorem key_cases (held : entry ∈ profile.members) :
    TargetFont.isFontKey entry.1 = true ∨ entry.1 ∈ fieldKeys := by
  rw [members_eq, List.mem_append, List.mem_append] at held
  rw [← profile.keys_fields, fields, List.map_cons]
  rcases held with (margin | font) | later
  · have key := Json.mem_written_key _ entry margin
    rw [List.map_singleton, List.mem_singleton] at key
    rw [key]
    exact .inr List.mem_cons_self
  · exact .inl (profile.fonts.isFontKey_of_mem entry font)
  · exact .inr (List.mem_cons_of_mem _ (Json.mem_written_key _ entry later))

end Profile

namespace Report

theorem error_not_mem_keys (profile : Profile) : "error" ∉ profile.members.map Prod.fst := by
  intro present
  obtain ⟨entry, held, same⟩ := List.mem_map.mp present
  rcases profile.key_cases entry held with begins | known
  · rw [same] at begins
    revert begins
    decide
  · rw [same] at known
    revert known
    decide

def members : Report → List (String × Json)
  | profile found => found.members
  | failure error => [("error", .text error.message)]

theorem toJson_eq (report : Report) : report.toJson = .object report.members := by
  cases report <;> rfl

theorem error_mem_keys_iff (report : Report) :
    "error" ∈ report.members.map Prod.fst ↔ ∃ error, report = .failure error := by
  cases report with
  | profile found =>
    refine iff_of_false (error_not_mem_keys found) ?_
    rintro ⟨error, same⟩
    contradiction
  | failure error => exact iff_of_true List.mem_cons_self ⟨error, rfl⟩

end Report

theorem Extraction.profile_of_report (extraction : Extraction) (source : Source)
    (profile : Profile) :
    extraction.report source = .profile profile ↔ extraction.profile source = .ok profile := by
  rw [report]
  cases extraction.profile source <;> simp

theorem Extraction.failure_of_report (extraction : Extraction) (source : Source)
    (error : PackageError) :
    extraction.report source = .failure error ↔ extraction.profile source = .error error := by
  rw [report]
  cases extraction.profile source <;> simp

/--
The text of a report, in either layout, of whatever is asked of any source. It is read as one object.
The key of a failure is among its keys exactly if there was no profile to be had; then it is the only
one, and the message of what went wrong stands under it. The members of a profile are its fields and
its fonts, and no key of a font is that of a field.
-/
theorem Extraction.report_told_by_keys (extraction : Extraction) (source : Source)
    (layout : Json.Layout) :
    ∃ members,
      Json.read? ((extraction.report source).toJson.render layout) = some (.object members) ∧
      ("error" ∈ members.map Prod.fst ↔ ∃ error, extraction.report source = .failure error) ∧
      (∀ error, extraction.report source = .failure error →
        extraction.profile source = .error error ∧ members = [("error", .text error.message)]) ∧
      ∀ profile, extraction.report source = .profile profile →
        extraction.profile source = .ok profile ∧ members = profile.members ∧
        "error" ∉ members.map Prod.fst ∧
        ∀ entry ∈ profile.fonts.members, entry ∈ members ∧ entry.1 ∉ Profile.fieldKeys := by
  refine ⟨(extraction.report source).members, ?_, Report.error_mem_keys_iff _, ?_, ?_⟩
  · rw [Report.toJson_eq, Json.read?_render]
  · intro error failed
    refine ⟨(extraction.failure_of_report source error).mp failed, ?_⟩
    rw [failed]
    rfl
  · intro profile built
    rw [built]
    refine ⟨(extraction.profile_of_report source profile).mp built, rfl,
      Report.error_not_mem_keys profile, ?_⟩
    intro entry font
    have held : entry ∈ profile.members := by
      rw [profile.members_eq]
      exact List.mem_append_left _ (List.mem_append_right _ font)
    exact ⟨held, profile.font_key_apart entry font⟩

end HouseStyle
