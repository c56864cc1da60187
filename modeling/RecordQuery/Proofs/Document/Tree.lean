import RecordQuery.Document.Text
import RecordQuery.Proofs.Document.Extensionality
import RecordQuery.Proofs.Value.Tree

/-!
# The trees of a document

A document has two JSON texts, and each is the text of a tree: `Document.toJson`, which the model
has already, and `Document.tree`, whose text is the one that is written straight from the document
(`Document.render_tree`).  The two differ in the order of the operators under a key and in nothing
else, and this file says what they have in common.  That there is a tree to speak of, and no null in
its place, is `Document.toJson?_eq`.

* `Document.IsTree` — what it takes for a tree to be a tree of the document.  Both are
  (`isTree_tree`, `isTree_toJson`).
* `Document.IsTree.namesUnique` — no name stands twice in one object of such a tree.
* **`Document.IsTree.below_iff`** — what is found below the operators: the trees of what is found in
  the values of the document.
* `Document.unsigned` — the document with signed numbers made unsigned where they are not
  negative.  Without floating-point numbers this is all that a tree does not tell
  (`unsigned_eq_of_isTree`).
-/

namespace RecordQuery

/-! ## Maps from a list of entries -/

namespace OrderedMap

variable {α β : Type} [Ord α]

section

variable {γ : Type} (f : β → γ)

lemma find?_mapValues (m : OrderedMap α β) (k : α) :
    (m.mapValues f).find? k = (m.find? k).map f := by
  obtain ⟨es⟩ := m
  change findIn k (es.map fun e => (e.1, f e.2)) = (findIn k es).map f
  induction es with
  | nil => rfl
  | cons e es ih =>
      rw [List.map_cons, findIn, findIn]
      split
      · rfl
      · exact ih

lemma Sorted.mapValues {m : OrderedMap α β} (h : m.Sorted) : (m.mapValues f).Sorted :=
  List.pairwise_map.mpr h

end

variable [Std.LawfulEqOrd α]

lemma perm_insertIn {k : α} {es : List (α × β)} (h : k ∉ es.map (·.1)) (v : β) :
    (insertIn k v es).Perm ((k, v) :: es) := by
  induction es with
  | nil => exact .refl _
  | cons e es ih =>
      obtain ⟨a, b⟩ := e
      obtain ⟨hne, hfresh⟩ := List.ne_and_not_mem_of_not_mem_cons h
      rw [insertIn]
      split
      · exact .refl _
      · next heq => exact absurd (Std.LawfulEqOrd.eq_of_compare heq) hne
      · exact ((ih hfresh).cons _).trans (.swap _ _ _)

/-- **With different keys no entry is lost.** -/
lemma perm_entries_ofList {es : List (α × β)} (h : (es.map (·.1)).Nodup) :
    (ofList es).entries.Perm es := by
  -- the map that the insertions start from must not have any of the keys
  suffices hinsert : ∀ m : OrderedMap α β, (∀ e ∈ es, e.1 ∉ m.keys) →
      (es.foldl (fun m e => m.insert e.1 e.2) m).entries.Perm (es ++ m.entries) by
    exact (hinsert empty fun _ _ => List.not_mem_nil).trans (.of_eq (List.append_nil es))
  induction es with
  | nil => exact fun m _ => .refl _
  | cons e es ih =>
      intro m hm
      obtain ⟨hfresh, hes⟩ := List.nodup_cons.mp h
      have hnext : ∀ f ∈ es, f.1 ∉ (m.insert e.1 e.2).keys := by
        intro f hf hmem
        rcases (mem_keys_insert m e.1 f.1 e.2).mp hmem with heq | hmem
        · exact hfresh (List.mem_map.mpr ⟨f, hf, heq⟩)
        · exact hm f (List.mem_cons_of_mem _ hf) hmem
      have hinsert : (m.insert e.1 e.2).entries.Perm (e :: m.entries) :=
        perm_insertIn (hm e List.mem_cons_self) e.2
      exact (ih hes _ hnext).trans ((hinsert.append_left es).trans List.perm_middle)

lemma ofList_of_sorted [Std.TransOrd α] {m : OrderedMap α β} (h : m.Sorted) :
    ofList m.entries = m :=
  congrArg mk (eq_of_mem_iff Prod.fst (sorted_ofList _) h fun _ =>
    (perm_entries_ofList (nodup_keys h)).mem_iff)

end OrderedMap

lemma Json.render_object_map {α : Type} (xs : List α) (name : α → String) (value : α → Json) :
    (Json.object (xs.map fun x => (name x, value x))).render
      = Json.brace (xs.map fun x => Json.member (name x) (value x).render) := by
  rw [Json.render, Json.renderMembers_eq_map, List.map_map]
  rfl

/-! ## The operators of one key -/

namespace OperatorMap

variable {m : OperatorMap} {j : Json}

/-- **The tree is that of the operators**: an object with the tags as names, in any order. -/
def IsTree (m : OperatorMap) (j : Json) : Prop :=
  ∃ members, j = .object members ∧ members.Perm (m.entries.map fun e => (e.1.tag, e.2.toJson))

/-- The tree in the operator order. -/
def tree (m : OperatorMap) : Json := .object (m.entries.map fun e => (e.1.tag, e.2.toJson))

lemma isTree_tree (m : OperatorMap) : IsTree m (tree m) := ⟨_, rfl, .refl _⟩

lemma nodup_tags (h : m.Sorted) :
    ((m.entries.map fun e => (e.1.tag, e.2.toJson)).map (·.1)).Nodup := by
  have hops : (m.entries.map (·.1)).Nodup := OrderedMap.nodup_keys h
  have htags := hops.map (f := Operator.tag) fun _ _ => Operator.tag_injective
  simpa [Function.comp_def] using htags

lemma isTree_toJson (h : m.Sorted) : IsTree m (toJson m) :=
  ⟨_, rfl, OrderedMap.perm_entries_ofList (nodup_tags h)⟩

lemma render_tree (m : OperatorMap) : (tree m).render = render m := by
  simp only [tree, render, Json.render_object_map, Value.render_toJson]

lemma toJson?_datum (m : OperatorMap) : (datum m).toJson? = .ok (toJson m) := by
  have hvalues : ∀ e ∈ m.entries, e.2.datum.toJson? = .ok e.2.toJson :=
    fun e _ => e.2.toJson?_datum
  exact Datum.toJson?_mapping (·.1.tag) hvalues

lemma hasMember_iff (h : IsTree m j) {tag : String} {k : Json} :
    j.HasMember tag k ↔ ∃ op v, (op, v) ∈ m.entries ∧ op.tag = tag ∧ v.toJson = k := by
  obtain ⟨members, rfl, hperm⟩ := h
  simp [Json.HasMember, hperm.mem_iff]

end OperatorMap

/-! ## Documents -/

namespace Document

variable {d e : Document} {j : Json}

/-- **The tree is one of the document**: an object with the keys as names, in their order, and under
every key a tree of its operators. -/
def IsTree (d : Document) (j : Json) : Prop :=
  ∃ tree : OperatorMap → Json, j = .object (d.toList.map fun e => (e.1, tree e.2)) ∧
    ∀ e ∈ d.toList, OperatorMap.IsTree e.2 (tree e.2)

/-- **The tree with the operators in the operator order.** -/
def tree (d : Document) : Json := .object (d.toList.map fun e => (e.1, OperatorMap.tree e.2))

theorem render_tree (d : Document) : d.tree.render = d.render := by
  simp only [tree, render, Json.render_object_map, OperatorMap.render_tree]

lemma isTree_tree (d : Document) : d.IsTree d.tree :=
  ⟨OperatorMap.tree, rfl, fun _ _ => OperatorMap.isTree_tree _⟩

/-- **Every document has a tree**, because its keys and its operators are written as texts. -/
theorem toJson?_eq (d : Document) :
    d.toJson? = .ok (.ofMembers (d.toList.map fun e => (e.1, OperatorMap.toJson e.2))) := by
  have hoperators : ∀ e ∈ d.toList,
      (OperatorMap.datum e.2).toJson? = .ok (OperatorMap.toJson e.2) :=
    fun e _ => OperatorMap.toJson?_datum e.2
  exact Datum.toJson?_mapping (·.1) hoperators

lemma toJson_of_toJson? (h : d.toJson? = .ok j) : d.toJson = j := by rw [toJson, h]

/-- **The keys of a document are in the byte order already**, so a tree keeps theirs. -/
lemma toJson?_of_wellFormed (h : d.WellFormed) :
    d.toJson? = .ok (.object (d.toList.map fun e => (e.1, OperatorMap.toJson e.2))) := by
  have hsorted := h.keys_sorted.mapValues OperatorMap.toJson
  rw [toJson?_eq, Json.ofMembers]
  exact congrArg (Except.ok ∘ Json.object ∘ OrderedMap.entries)
    (OrderedMap.ofList_of_sorted hsorted)

lemma toJson_eq (h : d.WellFormed) :
    d.toJson = .object (d.toList.map fun e => (e.1, OperatorMap.toJson e.2)) :=
  toJson_of_toJson? (toJson?_of_wellFormed h)

lemma isTree_toJson (h : d.WellFormed) : d.IsTree d.toJson :=
  ⟨OperatorMap.toJson, toJson_eq h, fun e he =>
    OperatorMap.isTree_toJson (h.operators_sorted e he)⟩

/-! ### What is found in a tree -/

/-- **The map of a tree**: under a key and a tag stands the tree of the value that the document
has there. -/
lemma IsTree.hasMember_iff (hj : d.IsTree j) (h : d.WellFormed) {key tag : String} {k : Json} :
    (∃ operators, j.HasMember key operators ∧ operators.HasMember tag k)
      ↔ ∃ op v, d.value? key op = some v ∧ op.tag = tag ∧ v.toJson = k := by
  obtain ⟨tree, rfl, htree⟩ := hj
  simp only [h.value?_eq_some_iff]
  constructor
  · rintro ⟨operators, ⟨members, hmembers, hmem⟩, hk⟩
    obtain rfl := Json.object.inj hmembers
    obtain ⟨⟨key, m⟩, hm, heq⟩ := List.mem_map.mp hmem
    obtain ⟨rfl, rfl⟩ := Prod.mk.inj heq
    obtain ⟨op, v, hv, htag, hvk⟩ := (OperatorMap.hasMember_iff (htree _ hm)).mp hk
    exact ⟨op, v, ⟨m, hm, hv⟩, htag, hvk⟩
  · rintro ⟨op, v, ⟨m, hm, hv⟩, htag, hvk⟩
    refine ⟨tree m, ⟨_, rfl, List.mem_map.mpr ⟨_, hm, rfl⟩⟩, ?_⟩
    exact (OperatorMap.hasMember_iff (htree _ hm)).mpr ⟨op, v, hv, htag, hvk⟩

/-- **What is found below the operators** is the tree of what is found in the values. -/
theorem IsTree.below_iff (hj : d.IsTree j) (h : d.WellFormed) {k : Json} :
    j.Below k ↔ ∃ key op v w, d.value? key op = some v ∧ v.Contains w ∧ w.toJson = k := by
  constructor
  · rintro ⟨key, operators, tag, value, hkey, htag, hk⟩
    obtain ⟨op, v, hv, _, rfl⟩ := (hj.hasMember_iff h).mp ⟨operators, hkey, htag⟩
    obtain ⟨w, hw, hwk⟩ := Value.contains_toJson_iff.mp hk
    exact ⟨key, op, v, w, hv, hw, hwk⟩
  · rintro ⟨key, op, v, w, hv, hw, hwk⟩
    obtain ⟨operators, hkey, htag⟩ := (hj.hasMember_iff h).mpr ⟨op, v, hv, rfl, rfl⟩
    exact ⟨key, operators, op.tag, v.toJson, hkey, htag, Value.contains_toJson_iff.mpr ⟨w, hw, hwk⟩⟩

lemma IsTree.contains_cases (hj : d.IsTree j) {k : Json} (h : j.Contains k) :
    k = j ∨ (∃ e ∈ d.toList, OperatorMap.IsTree e.2 k) ∨ j.Below k := by
  obtain ⟨tree, rfl, htree⟩ := hj
  -- two levels of names, and then the trees of values
  rcases within_iff.mp h with rfl | ⟨operators, hpart, h⟩
  · exact .inl rfl
  obtain ⟨⟨key, _⟩, hmem, rfl⟩ := List.mem_map.mp hpart
  obtain ⟨e, he, heq⟩ := List.mem_map.mp hmem
  obtain ⟨rfl, rfl⟩ := Prod.mk.inj heq
  rcases within_iff.mp h with rfl | ⟨value, hpart, h⟩
  · exact .inr (.inl ⟨e, he, htree e he⟩)
  obtain ⟨members, hmembers, _⟩ := htree e he
  rw [hmembers] at hpart
  obtain ⟨⟨tag, value⟩, hvalue, rfl⟩ := List.mem_map.mp hpart
  exact .inr (.inr ⟨e.1, tree e.2, tag, value, ⟨_, rfl, hmem⟩, ⟨_, hmembers, hvalue⟩, h⟩)

/-- **No name stands twice** in one object of a tree. -/
theorem IsTree.namesUnique (hj : d.IsTree j) (h : d.WellFormed) : j.NamesUnique := by
  intro members hmembers
  rcases hj.contains_cases hmembers with heq | ⟨e, he, members', heq, hperm⟩ | hbelow
  · obtain ⟨tree, rfl, _⟩ := hj
    obtain rfl := Json.object.inj heq
    rw [List.map_map]
    exact OrderedMap.nodup_keys h.keys_sorted
  · obtain rfl := Json.object.inj heq
    exact (hperm.map _).nodup_iff.mpr (OperatorMap.nodup_tags (h.operators_sorted e he))
  · obtain ⟨_, _, _, w, _, _, hw⟩ := (hj.below_iff h).mp hbelow
    exact absurd hw (Value.toJson_ne_object w members)

/-- There is no floating-point number in any value of the document. -/
def FloatFree (d : Document) : Prop := ∀ key op v, d.value? key op = some v → v.FloatFree

lemma IsTree.floatFree (hj : d.IsTree j) (h : d.WellFormed) (hd : d.FloatFree) : j.FloatFree := by
  intro x hx
  rcases hj.contains_cases hx with rfl | ⟨e, he, members, heq, _⟩ | hbelow
  · obtain ⟨_, heq, _⟩ := hj
    exact absurd heq nofun
  · exact absurd heq nofun
  · obtain ⟨key, op, v, w, hv, hw, hwx⟩ := (hj.below_iff h).mp hbelow
    cases w with
    | float y => exact hd key op v hv y hw
    | _ => exact absurd hwx nofun

/-! ### Signedness -/

/-- **Signed numbers made unsigned** where they are not negative, in every value. -/
def unsigned (d : Document) : Document :=
  ⟨d.entries.mapValues fun m => m.mapValues Value.unsigned⟩

lemma value?_unsigned (d : Document) (key : String) (op : Operator) :
    d.unsigned.value? key op = (d.value? key op).map Value.unsigned := by
  have hget : d.unsigned.get? key = (d.get? key).map (·.mapValues Value.unsigned) :=
    OrderedMap.find?_mapValues ..
  rw [value?, value?, hget]
  cases d.get? key with
  | none => rfl
  | some m => exact OrderedMap.find?_mapValues ..

lemma WellFormed.unsigned (h : d.WellFormed) : d.unsigned.WellFormed where
  keys_sorted := h.keys_sorted.mapValues _
  operators_sorted := by
    intro e he
    obtain ⟨f, hf, rfl⟩ := List.mem_map.mp he
    exact (h.operators_sorted f hf).mapValues _
  operators_nonempty := by
    intro e he
    obtain ⟨f, hf, rfl⟩ := List.mem_map.mp he
    have hnonempty := h.operators_nonempty f hf
    simpa [OrderedMap.isEmpty, OrderedMap.mapValues] using hnonempty

lemma render_unsigned (d : Document) : d.unsigned.render = d.render := by
  have hvalue : ∀ v : Value, v.unsigned.render = v.render := by
    intro v
    rw [← Value.render_toJson, Value.toJson_unsigned, Value.render_toJson]
  simp [render, toList, unsigned, OrderedMap.mapValues, OperatorMap.render, Function.comp_def,
    hvalue]

lemma toJson_unsigned (d : Document) : d.unsigned.toJson = d.toJson := by
  refine toJson_of_toJson? ((toJson?_eq _).trans ?_)
  rw [toJson_of_toJson? (toJson?_eq d)]
  simp [toList, unsigned, OrderedMap.mapValues, OperatorMap.toJson, Function.comp_def,
    Value.toJson_unsigned]

lemma value?_unsigned_of_isTree (hd : d.WellFormed) (he : e.WellFormed) (hdf : d.FloatFree)
    (hef : e.FloatFree) (hdj : d.IsTree j) (hej : e.IsTree j) {key : String} {op : Operator}
    {u : Value} (h : d.unsigned.value? key op = some u) : e.unsigned.value? key op = some u := by
  rw [value?_unsigned] at *
  obtain ⟨v, hv, rfl⟩ := Option.map_eq_some_iff.mp h
  have hmember := (hdj.hasMember_iff hd).mpr ⟨op, v, hv, rfl, rfl⟩
  obtain ⟨op', w, hw, htag, hwv⟩ := (hej.hasMember_iff he).mp hmember
  obtain rfl := Operator.tag_injective htag
  rw [hw, Option.map_some, (Value.toJson_eq_iff (hef _ _ _ hw) (hdf _ _ _ hv)).mp hwv]

/-- **Documents with a common tree differ in signedness only**, if there is no floating-point
number in them. -/
theorem unsigned_eq_of_isTree (hd : d.WellFormed) (he : e.WellFormed) (hdf : d.FloatFree)
    (hef : e.FloatFree) (hdj : d.IsTree j) (hej : e.IsTree j) : d.unsigned = e.unsigned :=
  hd.unsigned.ext he.unsigned fun _ _ => Option.ext fun _ =>
    ⟨value?_unsigned_of_isTree hd he hdf hef hdj hej,
      value?_unsigned_of_isTree he hd hef hdf hej hdj⟩

end Document

end RecordQuery
