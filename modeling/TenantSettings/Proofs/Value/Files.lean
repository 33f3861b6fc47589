import TenantSettings.Proofs.Bytes.Base64
import TenantSettings.Proofs.OrderedMap
import TenantSettings.Proofs.Table
import TenantSettings.Setting.Schema
import TenantSettings.Value.Decode

/-!
# Stored files

Files are stored as base64 text, and read into a map from what identifies them to their bytes. A
file that is stored again replaces the bytes of the earlier one and stays in its place; a text that
is no base64 text refuses all files, also where a later file would have replaced it.

* `StoredFile.Holds`: a file as it is stored for some bytes.
* `Setting.decodeFile_eq_error_iff`: when a file is refused, and how.
* `Setting.decodeFiles_of_holds`: the map that is read.
* `Setting.files_faithful`: files that are stored for bytes are read as those bytes, and files are
  refused for the first that cannot be read.
-/

namespace TenantSettings

open OrderedMap

/-- A file as it is stored for some bytes: its content is their base64 text, with any white space
around it. -/
structure StoredFile.Holds (f : StoredFile) (info : FileInfo) (bytes : List UInt8) : Prop where
  identified : f.info = info
  written : ∃ before after : String, (∀ c ∈ before.toList, Unicode.isWhiteSpace c = true)
    ∧ (∀ c ∈ after.toList, Unicode.isWhiteSpace c = true)
    ∧ f.content = before ++ Base64.encode bytes ++ after

/-- The first file whose content, white space around it aside, is no base64 text. -/
def FirstBadFile (files : List StoredFile) (f : StoredFile) : Prop :=
  ∃ before after, files = before ++ f :: after
    ∧ (∀ g ∈ before, Base64.Canonical (Unicode.trim g.content))
    ∧ ¬ Base64.Canonical (Unicode.trim f.content)

namespace Setting

variable (x : Setting)

/-! ### One file -/

/-- A file that is stored for some bytes is read as them. -/
lemma decodeFile_of_holds {f : StoredFile} {info : FileInfo} {bytes : List UInt8}
    (holds : f.Holds info bytes) : x.decodeFile f = .ok (info, ⟨bytes⟩) := by
  obtain ⟨before, after, hb, ha, content⟩ := holds.written
  have trimmed : Unicode.trim f.content = Base64.encode bytes := by
    rw [content]
    exact Unicode.trim_surrounded hb (fun _ mem => Base64.isWhiteSpace_of_mem_encode mem) ha
  rw [decodeFile, trimmed, Base64.decode_encode, holds.identified]

/-- A file is refused exactly if its content, white space around it aside, is no base64 text. -/
lemma decodeFile_eq_error_iff {f : StoredFile} {e : ConfigError} :
    x.decodeFile f = .error e ↔ ¬ Base64.Canonical (Unicode.trim f.content)
      ∧ e = .unrecoverable .invalidConfig (.fileContent x.key f.info.filename
        (Unicode.trim f.content)) := by
  rw [← Base64.decode_eq_none_iff, decodeFile]
  cases Base64.decode (Unicode.trim f.content) with
  | some bytes => simp
  | none =>
      dsimp only
      rw [Except.error.injEq, eq_comm]
      exact (and_iff_right rfl).symm

/-! ### All files -/

/-- Files that are stored for some bytes, one by one, are all read. -/
lemma mapM_decodeFile_of_holds {entries : List (FileInfo × List UInt8)} {files : List StoredFile}
    (hold : List.Forall₂ (fun e f => f.Holds e.1 e.2) entries files) :
    files.mapM x.decodeFile = .ok (entries.map fun e => (e.1, FileContent.mk e.2)) := by
  rw [mapM_eq_ok_iff, List.forall₂_map_right_iff]
  exact .flip (hold.imp fun _ _ holds => x.decodeFile_of_holds holds)

/-- They are read into the map of their bytes. -/
lemma decodeFiles_of_holds {entries : List (FileInfo × List UInt8)} {files : List StoredFile}
    (hold : List.Forall₂ (fun e f => f.Holds e.1 e.2) entries files) :
    x.decodeFiles (.files files) = .ok ((ofList entries).map FileContent.mk) := by
  rw [decodeFiles, x.mapM_decodeFile_of_holds hold, map_ofList]
  rfl

/-- Files are read as their table is. -/
lemma decodeFiles_eq_tabulate (files : List StoredFile) :
    x.decodeFiles (.files files)
      = (tabulate x.decodeFile files).map fun table => ofList (table.map Prod.snd) := by
  rw [decodeFiles, mapM_eq_tabulate]
  cases tabulate x.decodeFile files <;> rfl

/-- Files are refused as their table is. -/
lemma decodeFiles_eq_error_iff {files : List StoredFile} {e : ConfigError} :
    x.decodeFiles (.files files) = .error e ↔ tabulate x.decodeFile files = .error e := by
  rw [decodeFiles_eq_tabulate]
  cases tabulate x.decodeFile files <;> simp [Except.map]

/-- Files that are refused are refused for the first bad one. -/
lemma exists_firstBadFile {files : List StoredFile} {e : ConfigError}
    (refused : x.decodeFiles (.files files) = .error e) :
    ∃ f, FirstBadFile files f
      ∧ e = .unrecoverable .invalidConfig (.fileContent x.key f.info.filename
        (Unicode.trim f.content)) := by
  obtain ⟨before, f, after, split, early, broken⟩ :=
    firstFailure_of_tabulate (x.decodeFiles_eq_error_iff.mp refused)
  obtain ⟨bad, reported⟩ := x.decodeFile_eq_error_iff.mp broken
  refine ⟨f, ⟨before, after, split, fun g mem => ?_, bad⟩, reported⟩
  by_contra unread
  obtain ⟨v, read⟩ := early g mem
  rw [x.decodeFile_eq_error_iff.mpr ⟨unread, rfl⟩] at read
  cases read

/-- Files that are stored for some bytes, as base64 text with any white space around it, are read
into a map with each identification once, at its first occurrence, and under it the bytes of its
last occurrence; so the map has just these entries, in their order, where no identification repeats.
Any files are refused exactly if the content of some file is no base64 text once white space around
it is taken away, and then as an invalid configuration that names the first such file and holds what
is left of its content. -/
theorem files_faithful :
    (∀ (entries : List (FileInfo × List UInt8)) (files : List StoredFile),
        List.Forall₂ (fun e f => f.Holds e.1 e.2) entries files →
        ∃ m, x.decodeFiles (.files files) = .ok m
          ∧ m.keys = (entries.map Prod.fst).eraseDups
          ∧ (∀ info, m.get? info = (valuesAt info entries).getLast?.map FileContent.mk)
          ∧ ((entries.map Prod.fst).Nodup →
              m.entries = entries.map fun e => (e.1, FileContent.mk e.2)))
      ∧ ∀ files : List StoredFile,
        ((∃ e, x.decodeFiles (.files files) = .error e)
            ↔ ∃ f ∈ files, ¬ Base64.Canonical (Unicode.trim f.content))
          ∧ ∀ e, x.decodeFiles (.files files) = .error e →
            ∃ f, FirstBadFile files f
              ∧ e = .unrecoverable .invalidConfig (.fileContent x.key f.info.filename
                (Unicode.trim f.content)) := by
  refine ⟨fun entries files hold => ?_, fun files => ⟨?_, fun e => x.exists_firstBadFile⟩⟩
  · refine ⟨_, x.decodeFiles_of_holds hold, ?_, fun info => ?_, fun distinct => ?_⟩
    · rw [keys_map, keys_ofList]
    · rw [get?_map, get?_ofList]
    · show (ofList entries).entries.map _ = _
      rw [entries_ofList distinct]
  · simp only [decodeFiles_eq_error_iff, exists_tabulate_eq_error_iff, decodeFile_eq_error_iff]
    simp

/-- A file that is stored twice, the second time with white space around its text, and one between;
and files of which one is no base64 text, for the bits that it leaves over, and is stored again. -/
theorem files_faithful_replaced :
    let logo : FileInfo := ⟨"logo.png", "image/png"⟩
    let terms : FileInfo := ⟨"terms.txt", "text/plain"⟩
    let entries : List (FileInfo × List UInt8) := [(logo, [1]), (terms, []), (logo, [104, 105])]
    let files : List StoredFile := [⟨logo, "AQ=="⟩, ⟨terms, ""⟩, ⟨logo, "\n aGk=\t"⟩]
    let bad : List StoredFile := [⟨terms, ""⟩, ⟨logo, "AR=="⟩, ⟨logo, "aGk="⟩]
    List.Forall₂ (fun e f => StoredFile.Holds f e.1 e.2) entries files
      ∧ (∃ m, Schema.resourceFiles.decodeFiles (.files files) = .ok m ∧ m.keys = [logo, terms]
        ∧ m.get? logo = some ⟨[104, 105]⟩)
      ∧ ∃ e, Schema.resourceFiles.decodeFiles (.files bad) = .error e := by
  intro logo terms entries files bad
  have hold : List.Forall₂ (fun e f => StoredFile.Holds f e.1 e.2) entries files := by
    have white {text : String} (blank : text.toList.all Unicode.isWhiteSpace = true) :
        ∀ c ∈ text.toList, Unicode.isWhiteSpace c = true := List.all_eq_true.mp blank
    exact .cons ⟨rfl, "", "", white rfl, white rfl, rfl⟩
      (.cons ⟨rfl, "", "", white rfl, white rfl, rfl⟩
        (.cons ⟨rfl, "\n ", "\t", white (by decide), white (by decide), rfl⟩ .nil))
  obtain ⟨read, refused⟩ := Schema.resourceFiles.files_faithful
  obtain ⟨m, done, keys, found, -⟩ := read entries files hold
  refine ⟨hold, ⟨m, done, keys.trans (by decide), (found logo).trans (by decide)⟩, ?_⟩
  have unread : Base64.decode (Unicode.trim "AR==") = none := by decide
  exact (refused bad).1.mpr ⟨⟨logo, "AR=="⟩, by simp [bad], Base64.decode_eq_none_iff.mp unread⟩

end Setting

end TenantSettings
