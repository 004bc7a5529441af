import DashboardSurvey.Dashboard.Basic
import DashboardSurvey.Json.Decode
import DashboardSurvey.Proofs.Clauses

/-!
# Objects that name every member once

A member is looked up by its name and the first one counts, while resolving a join goes through all
of its members.  The two agree on objects that name every member once, and reading a text makes no
others.

* `Json.Distinct` — no object in a value names a member twice.
* `Json.find?_of_mem` — in such an object every member is the one that is found.
* `Json.Inherited` — the properties that the parts of a value have with it, as this one.
* `ReadsDistinct`, **`distinct_of_decode`** — what is read from a text is of this kind.
-/

namespace DashboardSurvey

/-- No object in the value names a member twice. -/
inductive Json.Distinct : Json → Prop
  | scalar (s : Scalar) : Distinct (.scalar s)
  | list {items : List Json} (hitems : ∀ x ∈ items, Distinct x) : Distinct (.list items)
  | object {members : List (String × Json)} (hnames : (members.map Prod.fst).Nodup)
      (hmembers : ∀ m ∈ members, Distinct m.2) : Distinct (.object members)

/-! ## Parts of such values -/

namespace Json

variable {v : Json} {name : String} {members : List (String × Json)}

@[simp] lemma distinct_scalar (s : Scalar) : (Json.scalar s).Distinct := .scalar s

@[simp] lemma distinct_list_iff {items : List Json} :
    (Json.list items).Distinct ↔ ∀ x ∈ items, x.Distinct := by
  constructor
  · rintro (_ | h)
    assumption
  · exact .list

@[simp] lemma distinct_object_iff :
    (Json.object members).Distinct
      ↔ (members.map Prod.fst).Nodup ∧ ∀ m ∈ members, m.2.Distinct := by
  constructor
  · rintro (_ | _ | ⟨hnames, hmembers⟩)
    exact ⟨hnames, hmembers⟩
  · rintro ⟨hnames, hmembers⟩
    exact .object hnames hmembers

lemma mem_of_find? (h : find? name members = some v) : (name, v) ∈ members := by
  induction members with
  | nil => cases h
  | cons m rest ih =>
      rw [find?_cons] at h
      split_ifs at h with hname
      · obtain rfl := Option.some.inj h
        rw [hname]
        exact List.mem_cons_self
      · exact List.mem_cons_of_mem m (ih h)

/-- With every name once, every member is the one that is found. -/
lemma find?_of_mem (hnames : (members.map Prod.fst).Nodup) (h : (name, v) ∈ members) :
    find? name members = some v := by
  induction members with
  | nil => exact absurd h List.not_mem_nil
  | cons m rest ih =>
      rw [List.map_cons, List.nodup_cons] at hnames
      rw [find?_cons]
      rcases List.mem_cons.mp h with rfl | h
      · exact if_pos rfl
      · rw [if_neg, ih hnames.2 h]
        exact fun heq => hnames.1 (heq ▸ List.mem_map_of_mem h)

end Json

/-! ## Properties of this kind -/

/-- **A property that values inherit.**  Scalars that are no doubles have it, lists have it from their
items, and objects that name every member once from their members. -/
structure Json.Inherited (H : Json → Prop) : Prop where
  null : H .null
  bool : ∀ b, H (.bool b)
  int : ∀ n, H (.int n)
  str : ∀ s, H (.str s)
  list_iff : ∀ {items}, H (.list items) ↔ ∀ x ∈ items, H x
  object_iff : ∀ {members},
    H (.object members) ↔ (members.map Prod.fst).Nodup ∧ ∀ m ∈ members, H m.2

namespace Json

lemma inherited_distinct : Inherited Distinct where
  null := .scalar _
  bool _ := .scalar _
  int _ := .scalar _
  str _ := .scalar _
  list_iff := distinct_list_iff
  object_iff := distinct_object_iff

lemma keeps_orElse {H : Json → Prop} {v w : Json} (h : H v) (h' : H w) : H (v.orElse w) := by
  rw [Json.orElse]
  split_ifs
  · exact h
  · exact h'

namespace Inherited

variable {H : Json → Prop} (hH : Inherited H) {v w : Json} {name : String}
variable {members : List (String × Json)}
include hH

lemma emptyList : H Json.emptyList := hH.list_iff.mpr (List.forall_mem_nil _)

lemma emptyObject : H Json.emptyObject :=
  hH.object_iff.mpr ⟨List.nodup_nil, List.forall_mem_nil _⟩

lemma find? (h : H (.object members)) (hv : Json.find? name members = some v) : H v :=
  (hH.object_iff.mp h).2 (name, v) (mem_of_find? hv)

lemma member (h : H v) (hw : v.member name = .ok w) : H w := by
  cases v with
  | object members =>
      rw [member_object, Except.ok.injEq] at hw
      subst hw
      cases hv : Json.find? name members with
      | none => exact hH.null
      | some x => exact hH.find? h hv
  | scalar s => cases hw
  | list items => cases hw

lemma elements {items : List Json} (h : H v) (hitems : v.elements = .ok items) :
    ∀ x ∈ items, H x := by
  cases v with
  | list all =>
      rw [elements_list, Except.ok.injEq] at hitems
      exact hitems ▸ hH.list_iff.mp h
  | object members =>
      rw [Json.elements, Except.ok.injEq] at hitems
      rw [← hitems, List.forall_mem_map]
      exact fun m _ => hH.str m.1
  | scalar s =>
      cases s with
      | str s =>
          rw [Json.elements, Except.ok.injEq] at hitems
          rw [← hitems, List.forall_mem_map]
          exact fun n _ => hH.str (String.ofList (charsOfCode n))
      | _ => cases hitems

lemma lists (h : H v) (hx : v.Lists w) : H w := by
  obtain ⟨items, hitems, hx⟩ := hx
  exact hH.elements (keeps_orElse h hH.emptyList) hitems w hx

lemma memberItems {items : List Json} (h : H v) (hitems : v.memberItems name = .ok items) :
    ∀ x ∈ items, H x := by
  obtain ⟨w, hw, hitems⟩ := bind_eq_ok.mp hitems
  exact hH.elements (keeps_orElse (hH.member h hw) hH.emptyList) hitems

end Inherited

end Json

/-! ## Reading a text -/

lemma names_putMember (name : String) (v : Json) (members : List (String × Json)) :
    (putMember name v members).map Prod.fst
      = if name ∈ members.map Prod.fst then members.map Prod.fst
        else members.map Prod.fst ++ [name] := by
  induction members with
  | nil => rfl
  | cons m rest ih =>
      rw [putMember]
      by_cases hname : m.1 = name
      · simp [hname]
      · have hne : ¬ name = m.1 := fun h => hname h.symm
        rw [if_neg hname, List.map_cons, ih]
        simp only [List.map_cons, List.mem_cons, hne, false_or]
        split_ifs <;> rfl

lemma mem_putMember {name : String} {v : Json} {members : List (String × Json)}
    {m : String × Json} (h : m ∈ putMember name v members) : m = (name, v) ∨ m ∈ members := by
  induction members with
  | nil => exact Or.inl (List.mem_singleton.mp h)
  | cons first rest ih =>
      rw [putMember] at h
      split_ifs at h with hname
      · rcases List.mem_cons.mp h with rfl | h
        · exact Or.inl rfl
        · exact Or.inr (List.mem_cons_of_mem first h)
      · rcases List.mem_cons.mp h with rfl | h
        · exact Or.inr List.mem_cons_self
        · exact (ih h).imp_right (List.mem_cons_of_mem first)

/-- What joining keeps was there before. -/
lemma mem_joinMembers {m : String × Json} {members : List (String × Json)}
    (h : m ∈ joinMembers members) : m ∈ members := by
  have hstep : ∀ ms seen : List (String × Json),
      m ∈ ms.foldl (fun ms m => putMember m.1 m.2 ms) seen → m ∈ ms ∨ m ∈ seen := by
    intro ms
    induction ms with
    | nil => exact fun _ h => Or.inr h
    | cons first rest ih =>
        intro seen h
        rcases ih _ h with h | h
        · exact Or.inl (List.mem_cons_of_mem first h)
        · exact (mem_putMember h).imp_left fun heq : m = first => heq ▸ List.mem_cons_self
  exact (hstep members [] h).resolve_right List.not_mem_nil

/-- Joining names every member once. -/
lemma nodup_joinMembers (members : List (String × Json)) :
    ((joinMembers members).map Prod.fst).Nodup := by
  refine List.foldlRecOn (motive := fun ms : List (String × Json) => (ms.map Prod.fst).Nodup)
    members _ List.nodup_nil fun ms hms m _ => ?_
  rw [names_putMember]
  split_ifs with hmem
  · exact hms
  · rw [List.nodup_append]
    exact ⟨hms, by simp, fun a ha b hb hab => hmem (List.mem_singleton.mp hb ▸ hab ▸ ha)⟩

/-- Of members with one name one is kept. -/
lemma distinct_joinMembers {members : List (String × Json)}
    (h : ∀ m ∈ members, m.2.Distinct) : (Json.object (joinMembers members)).Distinct :=
  .object (nodup_joinMembers members) fun m hm => h m (mem_joinMembers hm)

/-- The items of a list are a value and, after a comma, the others. -/
lemma readItems_eq_ok {fuel : ℕ} {cs rest : List Char} {vs : List Json}
    (h : readItems fuel cs = .ok (vs, rest)) :
    ∃ fuel' v ds, fuel = fuel' + 1 ∧ readValue fuel' cs = .ok (v, ds)
      ∧ (skipSpace ds = ']' :: rest ∧ vs = [v]
        ∨ ∃ es ws, skipSpace ds = ',' :: es ∧ readItems fuel' (skipSpace es) = .ok (ws, rest)
          ∧ vs = v :: ws) := by
  obtain ⟨fuel, rfl⟩ : ∃ fuel', fuel = fuel' + 1 := Nat.exists_eq_succ_of_ne_zero fun hzero => by
    subst hzero
    cases h
  rw [readItems.eq_def] at h
  obtain ⟨⟨v, ds⟩, hv, h⟩ := bind_eq_ok.mp h
  refine ⟨fuel, v, ds, rfl, hv, ?_⟩
  dsimp only at h
  split at h
  · obtain ⟨rfl, rfl⟩ := Prod.mk.inj (Except.ok.inj h)
    exact Or.inl ⟨‹_›, rfl⟩
  · obtain ⟨⟨ws, _⟩, hws, h⟩ := bind_eq_ok.mp h
    obtain ⟨rfl, rfl⟩ := Prod.mk.inj (Except.ok.inj h)
    exact Or.inr ⟨_, ws, ‹_›, hws, rfl⟩
  · cases h

/-- The members of an object are a name with its value and, after a comma, the others. -/
lemma readMembers_eq_ok {fuel : ℕ} {cs rest : List Char} {ms : List (String × Json)}
    (h : readMembers fuel cs = .ok (ms, rest)) :
    ∃ fuel' body name ds es v fs, fuel = fuel' + 1 ∧ cs = '\x22' :: body
      ∧ readString body body = .ok (name, ds) ∧ skipSpace ds = ':' :: es
      ∧ readValue fuel' (skipSpace es) = .ok (v, fs)
      ∧ (skipSpace fs = '\x7d' :: rest ∧ ms = [(String.ofList name, v)]
        ∨ ∃ gs ns, skipSpace fs = ',' :: gs ∧ readMembers fuel' (skipSpace gs) = .ok (ns, rest)
          ∧ ms = (String.ofList name, v) :: ns) := by
  obtain ⟨fuel, rfl⟩ : ∃ fuel', fuel = fuel' + 1 := Nat.exists_eq_succ_of_ne_zero fun hzero => by
    subst hzero
    cases h
  rw [readMembers.eq_def] at h
  dsimp only at h
  split at h
  · rename_i body
    obtain ⟨⟨name, ds⟩, hname, h⟩ := bind_eq_ok.mp h
    dsimp only at h
    split at h
    · obtain ⟨⟨v, fs⟩, hv, h⟩ := bind_eq_ok.mp h
      refine ⟨fuel, body, name, ds, _, v, fs, rfl, rfl, hname, ‹_›, hv, ?_⟩
      dsimp only at h
      split at h
      · obtain ⟨rfl, rfl⟩ := Prod.mk.inj (Except.ok.inj h)
        exact Or.inl ⟨‹_›, rfl⟩
      · obtain ⟨⟨ns, _⟩, hns, h⟩ := bind_eq_ok.mp h
        obtain ⟨rfl, rfl⟩ := Prod.mk.inj (Except.ok.inj h)
        exact Or.inr ⟨_, ns, ‹_›, hns, rfl⟩
      · cases h
    · cases h
  · cases h

/-- With this bound, the readers of values, items and members return no others. -/
structure ReadsDistinct (fuel : ℕ) : Prop where
  value : ∀ {cs v rest}, readValue fuel cs = .ok (v, rest) → v.Distinct
  items : ∀ {cs vs rest}, readItems fuel cs = .ok (vs, rest) → ∀ x ∈ vs, x.Distinct
  members : ∀ {cs ms rest}, readMembers fuel cs = .ok (ms, rest) → ∀ m ∈ ms, m.2.Distinct

namespace ReadsDistinct

variable {fuel : ℕ} {cs rest : List Char}

lemma of_map {α : Type} {r : Except Refusal (α × List Char)} {f : α → Json} {v : Json}
    (hr : ∀ {x rest}, r = .ok (x, rest) → (f x).Distinct)
    (h : (r.map fun p => (f p.1, p.2)) = .ok (v, rest)) : v.Distinct := by
  obtain ⟨⟨x, rest⟩, hx, hv⟩ := map_eq_ok.mp h
  obtain rfl := congrArg Prod.fst hv
  exact hr hx

lemma of_ok {v w : Json} {rest' : List Char} (hv : v.Distinct)
    (h : (.ok (v, rest') : Except Refusal (Json × List Char)) = .ok (w, rest)) : w.Distinct := by
  obtain rfl := congrArg Prod.fst (Except.ok.inj h)
  exact hv

lemma readValue_succ (ih : ReadsDistinct fuel) {v : Json}
    (h : readValue (fuel + 1) cs = .ok (v, rest)) : v.Distinct := by
  unfold readValue at h
  dsimp only at h
  split at h
  · exact of_map (f := fun s => .str (String.ofList s)) (fun _ => Json.distinct_scalar _) h
  · split at h
    · exact of_ok (by simp) h
    · exact of_map (fun hms => distinct_joinMembers (ih.members hms)) h
  · split at h
    · exact of_ok (by simp) h
    · exact of_map (fun hvs => .list (ih.items hvs)) h
  -- the words that stand for a value
  iterate 6 exact of_ok (Json.distinct_scalar _) h
  · exact of_map (f := Json.scalar) (fun _ => Json.distinct_scalar _) h

lemma readItems_succ (ih : ReadsDistinct fuel) {vs : List Json}
    (h : readItems (fuel + 1) cs = .ok (vs, rest)) : ∀ x ∈ vs, x.Distinct := by
  obtain ⟨fuel', v, ds, hfuel, hv, hnext⟩ := readItems_eq_ok h
  obtain rfl := Nat.succ.inj hfuel
  rcases hnext with hlast | ⟨es, ws, -, hws, rfl⟩
  · rw [hlast.2, List.forall_mem_singleton]
    exact ih.value hv
  · exact List.forall_mem_cons.mpr ⟨ih.value hv, ih.items hws⟩

lemma readMembers_succ (ih : ReadsDistinct fuel) {ms : List (String × Json)}
    (h : readMembers (fuel + 1) cs = .ok (ms, rest)) : ∀ m ∈ ms, m.2.Distinct := by
  obtain ⟨fuel', body, name, ds, es, v, fs, hfuel, -, -, -, hv, hnext⟩ := readMembers_eq_ok h
  obtain rfl := Nat.succ.inj hfuel
  rcases hnext with hlast | ⟨gs, ns, -, hns, rfl⟩
  · rw [hlast.2, List.forall_mem_singleton]
    exact ih.value hv
  · exact List.forall_mem_cons.mpr ⟨ih.value hv, ih.members hns⟩

end ReadsDistinct

lemma readsDistinct (fuel : ℕ) : ReadsDistinct fuel := by
  induction fuel with
  | zero => constructor <;> exact fun h => nomatch h
  | succ fuel ih => exact ⟨ih.readValue_succ, ih.readItems_succ, ih.readMembers_succ⟩

/-- A text that is read holds one value, with blanks around it. -/
lemma decode_eq_ok {text : List Char} {v : Json} (h : Json.decode text = .ok v) :
    ∃ fuel rest, readValue fuel (skipSpace text) = .ok (v, rest) ∧ skipSpace rest = [] := by
  rw [Json.decode] at h
  cases hread : readText text with
  | error r =>
      rw [hread] at h
      cases h
  | ok w =>
      rw [hread] at h
      obtain rfl := Except.ok.inj h
      have hwhole : ∀ {cs}, readText.readWholeText cs = .ok w →
          ∃ fuel rest, readValue fuel (skipSpace cs) = .ok (w, rest) ∧ skipSpace rest = [] := by
        intro cs h
        rw [readText.readWholeText] at h
        obtain ⟨⟨v, rest⟩, hv, h⟩ := bind_eq_ok.mp h
        dsimp only at h
        split at h
        · obtain rfl := Except.ok.inj h
          exact ⟨_, rest, hv, ‹_›⟩
        · cases h
      rw [readText.eq_def] at hread
      split at hread
      · split_ifs at hread
        exact hwhole hread
      · exact hwhole hread

/-- **Reading a text** makes no object that names a member twice. -/
theorem distinct_of_decode {text : List Char} {v : Json} (h : Json.decode text = .ok v) :
    v.Distinct := by
  obtain ⟨fuel, rest, hread, -⟩ := decode_eq_ok h
  exact (readsDistinct fuel).value hread

end DashboardSurvey
