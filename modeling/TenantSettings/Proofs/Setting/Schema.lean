import Mathlib.Data.List.Nodup
import Mathlib.Tactic.Lemma
import TenantSettings.Bytes.Utf8
import TenantSettings.Setting.Schema

/-!
# The keys of the schema

No two settings of the schema have the same key, and no key holds a bracket or a brace.

* `byKey?_key`: a setting of the schema is found by its key.
* `eq_of_key_eq`: settings of the schema with the same key are the same.
* `notMem_key`: the characters that no key holds.
-/

namespace TenantSettings.Schema

set_option maxRecDepth 4000 in
/-- No two settings have the same key. -/
lemma nodup_keys : (all.map (·.key)).Nodup := by
  -- in bytes the kernel compares the keys faster than as texts
  have bytes : (all.map fun s => Utf8.encode s.key).Nodup := by decide +kernel
  refine List.Nodup.of_map Utf8.encode ?_
  rwa [List.map_map]

/-- Settings of the schema with the same key are the same. -/
lemma eq_of_key_eq {s t : Setting} (hs : s ∈ all) (ht : t ∈ all) (h : s.key = t.key) : s = t :=
  List.inj_on_of_nodup_map nodup_keys hs ht h

/-- A setting of the schema is found by its key. -/
lemma byKey?_key {s : Setting} (hs : s ∈ all) : byKey? s.key = some s := by
  cases found : byKey? s.key with
  | none =>
      have unlisted : ∀ t ∈ all, ¬ (t.key == s.key) = true := List.find?_eq_none.mp found
      exact absurd (beq_self_eq_true _) (unlisted s hs)
  | some t =>
      obtain ⟨ht, same⟩ := mem_all_of_byKey? found
      rw [eq_of_key_eq ht hs same]

/-- No key holds the bracket that a profile id is put into, nor the brace that a stored object
starts with. -/
lemma notMem_key {s : Setting} (hs : s ∈ all) : '[' ∉ s.key.toList ∧ '\x7b' ∉ s.key.toList := by
  have bytes : ∀ s ∈ all, ∀ b ∈ Utf8.encode s.key, b ≠ 91 ∧ b ≠ 123 := by
    have checked : (all.all fun s => (Utf8.encode s.key).all fun b => b != 91 && b != 123) = true :=
      by decide +kernel
    simpa only [List.all_eq_true, Bool.and_eq_true, bne_iff_ne] using checked
  refine ⟨fun mem => ?_, fun mem => ?_⟩
  · refine (bytes s hs 91 ?_).1 rfl
    rw [Utf8.encode_eq_flatMap]
    exact List.mem_flatMap.mpr ⟨'[', mem, by decide⟩
  · refine (bytes s hs 123 ?_).2 rfl
    rw [Utf8.encode_eq_flatMap]
    exact List.mem_flatMap.mpr ⟨'\x7b', mem, by decide⟩

end TenantSettings.Schema
