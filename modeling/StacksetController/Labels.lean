import StacksetController.Types

set_option autoImplicit false

namespace StacksetController.Core

def selectorLabels : List String := [StacksetHeritageLabelKey, StackVersionLabelKey]

def mapCopy (m : Labels) : Labels :=
  m.foldl (fun newMap k v => newMap.insert k v) ∅

def limitLabels (labels : Labels) (validKeys : List String) : Labels :=
  labels.foldl (fun newLabels k v => if k ∈ validKeys then newLabels.insert k v else newLabels) ∅

def templateInjectLabels (template : PodTemplateSpec) (labels : Labels) : PodTemplateSpec :=
  { template with
    labels := labels.foldl (fun templateLabels key value =>
      if key ∈ templateLabels then templateLabels else templateLabels.insert key value) template.labels }

/-- Modelled from the spec: `mergeLabels` is declared outside src/. It copies its maps, left to right,
into a new map, a later map's value replacing an earlier one's, which is how its callers use it
("insert annotations" over a map built before). -/
def mergeLabels (labelMaps : List Labels) : Labels :=
  labelMaps.foldl (fun labels labelMap => labelMap.foldl (fun labels k v => labels.insert k v) labels) ∅

section Fold

variable (keep : String → Bool) (k : String)

-- A range loop storing the entries that pass `keep`: the last store of a key wins, and a key is stored
-- at most once because the source map's keys are unique.
theorem lookup_foldl_insert (entries : List (Σ _ : String, String)) (nodup : entries.NodupKeys)
    (acc : Labels) :
    (entries.foldl (fun r e => if keep e.1 then r.insert e.1 e.2 else r) acc).lookup k =
      if keep k then (entries.dlookup k).or (acc.lookup k) else acc.lookup k := by
  induction entries generalizing acc with
  | nil => split <;> simp
  | cons e rest ih =>
    obtain ⟨key, value⟩ := e
    obtain ⟨fresh, nodupRest⟩ := List.nodupKeys_cons.mp nodup
    rw [List.foldl_cons, ih nodupRest]
    by_cases same : k = key
    · subst same
      have absent : rest.dlookup k = none := List.dlookup_eq_none.mpr fresh
      by_cases kept : keep k <;> simp [kept, absent, AList.lookup_insert, List.dlookup_cons_eq]
    · rw [List.dlookup_cons_ne _ _ same]
      split <;> split <;> simp [AList.lookup_insert_ne same]

-- A range loop storing a key only where the target has none yet: the first value wins.
theorem lookup_foldl_insert_absent (entries : List (Σ _ : String, String)) (acc : Labels) :
    (entries.foldl (fun r e => if e.1 ∈ r then r else r.insert e.1 e.2) acc).lookup k =
      (acc.lookup k).or (entries.dlookup k) := by
  induction entries generalizing acc with
  | nil => simp
  | cons e rest ih =>
    obtain ⟨key, value⟩ := e
    rw [List.foldl_cons, ih]
    by_cases same : k = key
    · subst same
      by_cases present : k ∈ acc
      · obtain ⟨v, hv⟩ := Option.isSome_iff_exists.mp (AList.lookup_isSome.mpr present)
        simp [present, hv]
      · simp [present, AList.lookup_eq_none.mpr present, AList.lookup_insert, List.dlookup_cons_eq]
    · rw [List.dlookup_cons_ne _ _ same]
      split <;> simp [AList.lookup_insert_ne same]

end Fold

@[simp] theorem lookup_mapCopy (m : Labels) (k : String) : (mapCopy m).lookup k = m.lookup k := by
  simpa using lookup_foldl_insert (fun _ => true) k m.entries m.nodupKeys ∅

@[simp] theorem lookup_limitLabels (labels : Labels) (validKeys : List String) (k : String) :
    (limitLabels labels validKeys).lookup k = if k ∈ validKeys then labels.lookup k else none := by
  simpa using lookup_foldl_insert (fun k => decide (k ∈ validKeys)) k labels.entries labels.nodupKeys ∅

@[simp] theorem lookup_templateInjectLabels (template : PodTemplateSpec) (labels : Labels) (k : String) :
    (templateInjectLabels template labels).labels.lookup k = (template.labels.lookup k).or (labels.lookup k) :=
  lookup_foldl_insert_absent k labels.entries template.labels

@[simp] theorem templateInjectLabels_containers (template : PodTemplateSpec) (labels : Labels) :
    (templateInjectLabels template labels).containers = template.containers := rfl

theorem mem_templateInjectLabels (template : PodTemplateSpec) (labels : Labels) (k : String) :
    k ∈ (templateInjectLabels template labels).labels ↔ k ∈ template.labels ∨ k ∈ labels := by
  simp only [← AList.lookup_isSome, lookup_templateInjectLabels]
  cases template.labels.lookup k <;> simp

theorem foldl_insert_absent_of_mem (entries : List (Σ _ : String, String)) (acc : Labels)
    (present : ∀ e ∈ entries, e.1 ∈ acc) :
    entries.foldl (fun r e => if e.1 ∈ r then r else r.insert e.1 e.2) acc = acc := by
  induction entries with
  | nil => rfl
  | cons e rest ih =>
    rw [List.foldl_cons, if_pos (present e (.head _))]
    exact ih fun e' later => present e' (.tail _ later)

theorem templateInjectLabels_of_subset (template : PodTemplateSpec) (labels : Labels)
    (present : ∀ k ∈ labels, k ∈ template.labels) : templateInjectLabels template labels = template := by
  show { template with labels := labels.entries.foldl _ template.labels } = template
  rw [foldl_insert_absent_of_mem _ _ fun e member => present e.1 (List.mem_keys_of_mem member)]

theorem templateInjectLabels_fills_missing_labels (template : PodTemplateSpec) (labels : Labels) :
    (∀ k v, template.labels.lookup k = some v →
      (templateInjectLabels template labels).labels.lookup k = some v) ∧
    (∀ k, k ∉ template.labels → (templateInjectLabels template labels).labels.lookup k = labels.lookup k) ∧
    (∀ k, k ∈ (templateInjectLabels template labels).labels ↔ k ∈ template.labels ∨ k ∈ labels) ∧
    templateInjectLabels (templateInjectLabels template labels) labels = templateInjectLabels template labels := by
  refine ⟨fun k v own => by simp [own], fun k absent => ?_, mem_templateInjectLabels template labels,
    templateInjectLabels_of_subset _ labels fun k member =>
      (mem_templateInjectLabels template labels k).mpr (.inr member)⟩
  simp [AList.lookup_eq_none.mpr absent]

theorem lookup_singleton (a k v : String) :
    (AList.singleton a v : Labels).lookup k = if k = a then some v else none := by
  rw [← AList.insert_empty]
  by_cases same : k = a
  · rw [if_pos same, same, AList.lookup_insert]
  · rw [if_neg same, AList.lookup_insert_ne same, AList.lookup_empty]

@[simp] theorem mergeLabels_nil : mergeLabels [] = ∅ := rfl

theorem lookup_mergeLabels_append (labelMaps : List Labels) (labelMap : Labels) (k : String) :
    (mergeLabels (labelMaps ++ [labelMap])).lookup k =
      (labelMap.lookup k).or ((mergeLabels labelMaps).lookup k) := by
  simpa [mergeLabels] using
    lookup_foldl_insert (fun _ => true) k labelMap.entries labelMap.nodupKeys (mergeLabels labelMaps)

end StacksetController.Core
