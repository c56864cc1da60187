import Mathlib.Data.List.Nodup
import RecordQuery.Proofs.Document.Entries

/-!
# Documents with the same values are the same document

A document is a list of lists, but its two strict orders leave no choice in it: **what stands under
every key and operator determines the document** (`Document.WellFormed.ext`).  A statement about a
whole document therefore needs to be shown for one key and one operator only.

* `OrderedMap.find?_eq_some_iff` — in a sorted map the entries are what look-up finds.
* `Document.conditions` — a document taken apart into its conditions.
* `Document.ofConditions_of_perm` — its conditions make the document again, in whatever order
  they are put in, because no two of them are about the same key and operator.
-/

namespace RecordQuery

/-! ## Sorted maps -/

namespace OrderedMap

variable {α β : Type} [Ord α]

lemma Sorted.tail {e : α × β} {es : List (α × β)} (h : (⟨e :: es⟩ : OrderedMap α β).Sorted) :
    (⟨es⟩ : OrderedMap α β).Sorted :=
  (List.pairwise_cons.mp h).2

section

variable [Std.LawfulEqOrd α] {m n : OrderedMap α β} {k : α} {v : β}

/-- **Look-up finds every entry** of a sorted map, and nothing else. -/
lemma find?_eq_some_iff (h : m.Sorted) : m.find? k = some v ↔ (k, v) ∈ m.entries := by
  refine ⟨mem_of_find?, ?_⟩
  obtain ⟨es⟩ := m
  intro hmem
  change findIn k es = some v
  induction es with
  | nil => exact absurd hmem List.not_mem_nil
  | cons e es ih =>
      obtain ⟨a, b⟩ := e
      rw [findIn]
      rcases List.mem_cons.mp hmem with heq | hmem
      · obtain ⟨rfl, rfl⟩ := Prod.mk.inj heq
        simp
      · have hlt : compare a k = .lt := (List.pairwise_cons.mp h).1 _ hmem
        have hne : compare k a ≠ .eq := by
          intro heq
          obtain rfl := Std.LawfulEqOrd.eq_of_compare heq
          simp at hlt
        rw [if_neg hne]
        exact ih h.tail hmem

end

variable [Std.TransOrd α] [Std.LawfulEqOrd α]

/-- There is only one way to sort things by different keys. -/
lemma eq_of_mem_iff {γ : Type} (key : γ → α) {xs ys : List γ}
    (hxs : xs.Pairwise fun e f => compare (key e) (key f) = .lt)
    (hys : ys.Pairwise fun e f => compare (key e) (key f) = .lt) (h : ∀ e, e ∈ xs ↔ e ∈ ys) :
    xs = ys := by
  have hnodup : ∀ {zs : List γ}, zs.Pairwise (fun e f => compare (key e) (key f) = .lt) →
      zs.Nodup := by
    refine fun hzs => hzs.imp fun hlt heq => ?_
    simp [heq] at hlt
  refine ((List.perm_ext_iff_of_nodup (hnodup hxs) (hnodup hys)).mpr h).eq_of_pairwise ?_ hxs hys
  intro e f _ _ hlt hgt
  rw [Std.OrientedCmp.gt_of_lt hlt] at hgt
  exact absurd hgt (by decide)

variable {m n : OrderedMap α β}

/-- **Sorted maps with the same values are the same map**: they have the same entries. -/
theorem ext_of_find? (hm : m.Sorted) (hn : n.Sorted) (h : ∀ k, m.find? k = n.find? k) : m = n := by
  refine congrArg mk (eq_of_mem_iff Prod.fst hm hn ?_)
  rintro ⟨k, v⟩
  rw [← find?_eq_some_iff hm, ← find?_eq_some_iff hn, h]

lemma keys_ext (hm : m.Sorted) (hn : n.Sorted) (h : ∀ k, k ∈ m.keys ↔ k ∈ n.keys) :
    m.keys = n.keys :=
  eq_of_mem_iff id (List.pairwise_map.mpr hm) (List.pairwise_map.mpr hn) h

end OrderedMap

/-! ## Conditions, of which the last counts -/

namespace Condition

/-- What the condition is about. -/
def target (c : Condition) : String × Operator := (c.key, c.operator)

lemma lastAt?_cons (c : Condition) (cs : List Condition) (key : String) (op : Operator) :
    lastAt? (c :: cs) key op
      = (lastAt? cs key op).or (if c.isAt key op then some c.value else none) := by
  rw [lastAt?, lastAt?]
  by_cases hc : c.isAt key op = true
  · rw [List.filter_cons_of_pos hc, if_pos hc, List.map_cons, List.getLast?_cons]
    cases ((cs.filter (·.isAt key op)).map (·.value)).getLast? <;> rfl
  · rw [List.filter_cons_of_neg hc, if_neg hc, Option.or_none]

lemma mem_of_lastAt? {cs : List Condition} {key : String} {op : Operator} {v : Value}
    (h : lastAt? cs key op = some v) : ⟨key, op, v⟩ ∈ cs := by
  obtain ⟨c, hc, rfl⟩ := List.mem_map.mp (List.mem_of_getLast? h)
  obtain ⟨hmem, hat⟩ := List.mem_filter.mp hc
  obtain ⟨rfl, rfl⟩ := isAt_iff.mp hat
  exact hmem

/-- **Without repetition every condition counts.** -/
lemma lastAt?_eq_some_iff {cs : List Condition} (h : (cs.map target).Nodup) {key : String}
    {op : Operator} {v : Value} : lastAt? cs key op = some v ↔ ⟨key, op, v⟩ ∈ cs := by
  refine ⟨mem_of_lastAt?, fun hmem => ?_⟩
  induction cs with
  | nil => exact absurd hmem List.not_mem_nil
  | cons c cs ih =>
      obtain ⟨hfresh, htail⟩ := List.nodup_cons.mp h
      rw [lastAt?_cons]
      rcases List.mem_cons.mp hmem with rfl | hmem
      · have hnone : lastAt? cs key op = none := by
          refine Option.eq_none_iff_forall_ne_some.mpr fun w hw => ?_
          exact hfresh (List.mem_map.mpr ⟨_, mem_of_lastAt? hw, rfl⟩)
        rw [hnone, Option.none_or]
        exact if_pos (isAt_iff.mpr ⟨rfl, rfl⟩)
      · rw [ih htail hmem]
        rfl

end Condition

/-! ## Documents -/

namespace Document

lemma WellFormed.value?_eq_some_iff {d : Document} (h : d.WellFormed) {key : String}
    {op : Operator} {v : Value} :
    d.value? key op = some v ↔ ∃ m, (key, m) ∈ d.toList ∧ (op, v) ∈ m.entries := by
  have hget : ∀ m, d.get? key = some m ↔ (key, m) ∈ d.toList :=
    fun m => OrderedMap.find?_eq_some_iff h.keys_sorted
  rw [value?, Option.bind_eq_some_iff]
  refine exists_congr fun m => ?_
  rw [hget]
  refine and_congr_right fun hm => ?_
  exact OrderedMap.find?_eq_some_iff (h.operators_sorted _ hm)

lemma WellFormed.exists_entry {d : Document} (h : d.WellFormed) {e : String × OperatorMap}
    (he : e ∈ d.toList) : ∃ p, p ∈ e.2.entries := by
  refine List.exists_mem_of_ne_nil _ fun hnil => ?_
  have hnonempty := h.operators_nonempty e he
  rw [OrderedMap.isEmpty, hnil] at hnonempty
  exact absurd hnonempty (by decide)

/-- **A well-formed document is determined by its values.** -/
theorem WellFormed.ext {d e : Document} (hd : d.WellFormed) (he : e.WellFormed)
    (h : ∀ key op, d.value? key op = e.value? key op) : d = e := by
  have hsub : ∀ {d e : Document}, d.WellFormed → e.WellFormed →
      (∀ key op, d.value? key op = e.value? key op) →
      ∀ {key m}, d.get? key = some m → e.get? key = some m := by
    intro d e hd he h key m hm
    have hmem := OrderedMap.mem_of_find? hm
    -- the map of a key is not empty, so the key is there in `e` as well
    obtain ⟨⟨op, v⟩, hp⟩ := hd.exists_entry hmem
    have hv : e.value? key op = some v := by
      rw [← h]
      exact hd.value?_eq_some_iff.mpr ⟨m, hmem, hp⟩
    obtain ⟨n, hn, _⟩ := Option.bind_eq_some_iff.mp hv
    rw [hn]
    refine congrArg some (OrderedMap.ext_of_find? ?_ ?_ fun op => ?_)
    · exact he.operators_sorted _ (OrderedMap.mem_of_find? hn)
    · exact hd.operators_sorted _ hmem
    · have hvalues := h key op
      rw [value?, value?, hm, hn] at hvalues
      exact hvalues.symm
  refine congrArg Document.mk (OrderedMap.ext_of_find? hd.keys_sorted he.keys_sorted fun key => ?_)
  refine Option.ext fun m => ⟨hsub hd he h, hsub he hd fun key op => (h key op).symm⟩

/-- **A document as the list of its conditions**, in its own order. -/
def conditions (d : Document) : List Condition :=
  d.toList.flatMap fun e => e.2.entries.map fun p => ⟨e.1, p.1, p.2⟩

lemma mem_conditions_iff {d : Document} {c : Condition} :
    c ∈ d.conditions ↔ ∃ m, (c.key, m) ∈ d.toList ∧ (c.operator, c.value) ∈ m.entries := by
  simp only [conditions, List.mem_flatMap, List.mem_map, Prod.exists]
  constructor
  · rintro ⟨key, m, hm, op, v, hv, rfl⟩
    exact ⟨m, hm, hv⟩
  · rintro ⟨m, hm, hv⟩
    exact ⟨c.key, m, hm, c.operator, c.value, hv, rfl⟩

lemma WellFormed.nodup_targets {d : Document} (h : d.WellFormed) :
    (d.conditions.map Condition.target).Nodup := by
  rw [conditions, List.map_flatMap, List.nodup_flatMap]
  constructor
  · rintro ⟨key, m⟩ hm
    have hops : (m.entries.map (·.1)).Nodup := OrderedMap.nodup_keys (h.operators_sorted _ hm)
    have hkeyed := hops.map (f := fun op => (key, op)) fun op op' heq => (Prod.mk.inj heq).2
    simpa [Function.comp_def, Condition.target] using hkeyed
  · refine (List.pairwise_map.mp (OrderedMap.nodup_keys h.keys_sorted)).imp ?_
    rintro ⟨key, m⟩ ⟨key', m'⟩ hne
    refine List.disjoint_left.mpr fun t ht ht' => hne ?_
    simp only [List.mem_map, exists_exists_and_eq_and] at ht ht'
    obtain ⟨_, _, rfl⟩ := ht
    obtain ⟨_, _, heq⟩ := ht'
    exact (Prod.mk.inj heq).1.symm

/-- **The conditions of a document make the document again**, whatever their order. -/
theorem WellFormed.ofConditions_of_perm {d : Document} (h : d.WellFormed) {cs : List Condition}
    (hperm : cs.Perm d.conditions) : ofConditions cs = d := by
  have hnodup : (cs.map Condition.target).Nodup :=
    (hperm.map _).nodup_iff.mpr h.nodup_targets
  refine (wellFormed_ofConditions cs).ext h fun key op => Option.ext fun v => ?_
  rw [value?_ofConditions, Condition.lastAt?_eq_some_iff hnodup, hperm.mem_iff,
    mem_conditions_iff, h.value?_eq_some_iff]

end Document

end RecordQuery
