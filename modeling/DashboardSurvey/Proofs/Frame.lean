import DashboardSurvey.Proofs.Distinct

/-!
# What resolving leaves alone in a query

Resolving a query makes a new object of it: the known clauses are written in a fixed order, and
everything else is left out.  What a query has besides its known clauses, and in which order it has
them, is therefore of no account.  Inside a clause, lists keep their length and objects their names.

* `knownClauses`, `resolveQuery_congr_members` — queries with the same known clauses.
* `find?_clause` — one known clause of a query, and what it becomes.
* `Json.names` — the names that a value has for members.
* `Catalog.Frames`, **`resolveQuery_frames`** — all of this for a query that can be resolved.
-/

namespace DashboardSurvey

/-! ## Members of an object -/

namespace Json

variable {name : String} {members members' : List (String × Json)}

/-- In which order members stand is of no account, as long as their names are different. -/
lemma find?_perm (h : members.Perm members') (hnames : (members.map Prod.fst).Nodup)
    (name : String) : find? name members = find? name members' := by
  have hnames' : (members'.map Prod.fst).Nodup := (h.map Prod.fst).nodup_iff.mp hnames
  refine Option.ext fun v => ⟨fun hv => ?_, fun hv => ?_⟩
  · exact find?_of_mem hnames' (h.mem_iff.mp (mem_of_find? hv))
  · exact find?_of_mem hnames (h.mem_iff.mpr (mem_of_find? hv))

/-- The names that a value has for members; only objects have any. -/
def names : Json → List String
  | object members => members.map Prod.fst
  | _ => []

/-- What the members of a value are read from has the same names. -/
lemma names_of_entries {v : Json} {missing : String}
    (h : (v.orElse emptyObject).entries missing = .ok members) :
    members.map Prod.fst = v.names := by
  by_cases hv : ∃ members', v = object members'
  · obtain ⟨members', rfl⟩ := hv
    rw [orElse_object, entries, Except.ok.injEq] at h
    rw [← h, names]
  · push Not at hv
    have hnone : v.names = [] := by
      cases v with
      | object members' => exact absurd rfl (hv members')
      | _ => rfl
    rw [hnone]
    by_cases ht : v.truthy = true
    · rw [orElse_of_truthy ht] at h
      cases v with
      | object members' => exact absurd rfl (hv members')
      | _ => exact absurd h (by simp [entries])
    · rw [orElse_of_not_truthy (by simpa using ht), entries, Except.ok.injEq] at h
      rw [← h, List.map_nil]

end Json

/-! ## Known clauses -/

/-- The members that are known clauses. -/
def knownClauses (members : List (String × Json)) : List (String × Json) :=
  members.filter fun m => m.1 ∈ clauseNames

lemma find?_knownClauses {name : String} (hname : name ∈ clauseNames)
    (members : List (String × Json)) :
    Json.find? name (knownClauses members) = Json.find? name members := by
  rw [knownClauses]
  induction members with
  | nil => rfl
  | cons m rest ih =>
      rw [List.filter_cons]
      split_ifs with hm
      · rw [Json.find?_cons, Json.find?_cons, ih]
      · have hother : name ≠ m.1 := by
          rintro rfl
          exact hm (decide_eq_true hname)
        rw [ih, Json.find?_cons, if_neg hother]

/-- Where the known clauses are the same but for their order, the same is found. -/
lemma find?_eq_of_perm {members members' : List (String × Json)}
    (h : (knownClauses members).Perm (knownClauses members'))
    (hnames : (members.map Prod.fst).Nodup) {name : String} (hname : name ∈ clauseNames) :
    Json.find? name members = Json.find? name members' := by
  have hdistinct : ((knownClauses members).map Prod.fst).Nodup :=
    hnames.sublist (List.filter_sublist.map Prod.fst)
  rw [← find?_knownClauses hname members, ← find?_knownClauses hname members']
  exact Json.find?_perm h hdistinct name

/-! ## Parts that keep their places -/

/-- Two lists have the same length, and the items of the one are made of those of the other. -/
def Itemwise (f : Json → Json) (items items' : List Json) : Prop :=
  items'.length = items.length
    ∧ ∀ (i : ℕ) (x : Json), items[i]? = some x → items'[i]? = some (f x)

lemma itemwise_map (f : Json → Json) (items : List Json) : Itemwise f items (items.map f) := by
  refine ⟨List.length_map f, fun i x hx => ?_⟩
  rw [List.getElem?_map, hx, Option.map_some]

/-- Two joins name the same members in the same order, and only the source and the condition may
differ. -/
def JoinKept (join join' : List (String × Json)) : Prop :=
  join'.map Prod.fst = join.map Prod.fst
    ∧ ∀ (i : ℕ) (m : String × Json), join[i]? = some m → m.1 ≠ "source-table" →
      m.1 ≠ "condition" → join'[i]? = some m

namespace Catalog

variable {c : Catalog}

/-- Clauses look at nothing but the members of their names. -/
lemma resolveClauses_congr_members {members members' : List (String × Json)}
    {cs : List (String × (Json → Shaped Json))}
    (h : ∀ clause ∈ cs, Json.find? clause.1 members = Json.find? clause.1 members') :
    resolveClauses members cs = resolveClauses members' cs := by
  induction cs with
  | nil => rfl
  | cons clause rest ih =>
      rw [List.forall_mem_cons] at h
      rw [resolveClauses, resolveClauses, h.1, ih h.2]

/-- **Other members.**  Queries whose known clauses are the same but for their order are resolved to
the same, or fail for the same cause. -/
theorem resolveQuery_congr_members {members members' : List (String × Json)}
    (h : (knownClauses members).Perm (knownClauses members'))
    (hnames : (members.map Prod.fst).Nodup) :
    c.resolveQuery (.object members) = c.resolveQuery (.object members') := by
  rw [resolveQuery, resolveQuery, resolveClauses_congr_members]
  intro clause hclause
  exact find?_eq_of_perm h hnames (names_clauses c ▸ List.mem_map_of_mem hclause)

/-- What becomes of one known clause that a query has. -/
lemma find?_clause {members out : List (String × Json)}
    (h : resolveClauses members c.clauses = .ok out) {name : String} {f : Json → Shaped Json}
    (hclause : (name, f) ∈ c.clauses) {v : Json} (hv : Json.find? name members = some v) :
    ∃ w, f v = .ok w ∧ Json.find? name out = some w := by
  have hrel := find?_resolveClauses h (nodup_clauses c) hclause
  rw [hv] at hrel
  generalize Json.find? name out = found at hrel ⊢
  cases hrel with
  | some hw => exact ⟨_, hw, rfl⟩

/-! ## Inside a clause -/

section Clause

variable {members out : List (String × Json)}

lemma find?_limit (h : resolveClauses members c.clauses = .ok out) :
    Json.find? "limit" out = Json.find? "limit" members := by
  have hlimit := find?_resolveClauses h (nodup_clauses c)
    (show ("limit", Except.ok) ∈ c.clauses by simp [clauses])
  generalize Json.find? "limit" members = before at hlimit ⊢
  generalize Json.find? "limit" out = after at hlimit ⊢
  cases hlimit with
  | none => rfl
  | some hw => rw [Except.ok.inj hw]

lemma find?_source (h : resolveClauses members c.clauses = .ok out) {v : Json}
    (hv : Json.find? "source-table" members = some v) (hother : ∀ id, v ≠ .int id) :
    Json.find? "source-table" out = some v := by
  obtain ⟨w, hw, hfound⟩ := find?_clause h
    (show ("source-table", fun v => .ok (c.resolveSource v)) ∈ c.clauses by simp [clauses]) hv
  rw [hfound, ← Except.ok.inj hw, resolveSource_other hother]

lemma mem_clauses_of_mem_listClauses {name : String} (h : name ∈ listClauses) :
    (name, c.resolveList) ∈ c.clauses := by
  simp only [listClauses, List.mem_cons, List.not_mem_nil, or_false] at h
  rcases h with rfl | rfl | rfl | rfl <;> simp [clauses]

lemma find?_listed (h : resolveClauses members c.clauses = .ok out) {name : String}
    (hname : name ∈ listClauses) {items : List Json}
    (hitems : Json.find? name members = some (.list items)) :
    Json.find? name out = some (.list (items.map c.resolve)) := by
  obtain ⟨w, hw, hfound⟩ := find?_clause h (mem_clauses_of_mem_listClauses hname) hitems
  rw [resolveList, Json.orElse_list, Json.elements_list, ok_bind, pure_eq_ok] at hw
  rw [hfound, hw]

lemma find?_joins (h : resolveClauses members c.clauses = .ok out) {joins : List Json}
    (hjoins : Json.find? "joins" members = some (.list joins)) :
    Json.find? "joins" out = some (.list (joins.map c.resolveJoin)) := by
  obtain ⟨w, hw, hfound⟩ := find?_clause h
    (show ("joins", c.resolveJoins) ∈ c.clauses by simp [clauses]) hjoins
  rw [resolveJoins, Json.orElse_list, Json.elements_list, ok_bind, pure_eq_ok] at hw
  rw [hfound, hw]

lemma find?_expressions (h : resolveClauses members c.clauses = .ok out) {v : Json}
    (hv : Json.find? "expressions" members = some v) :
    ∃ named, Json.find? "expressions" out = some (.object named)
      ∧ named.map Prod.fst = v.names := by
  obtain ⟨w, hw, hfound⟩ := find?_clause h
    (show ("expressions", c.resolveNamed) ∈ c.clauses by simp [clauses]) hv
  simp only [resolveNamed, bind_eq_ok, pure_eq_ok] at hw
  obtain ⟨named, hnamed, rfl⟩ := hw
  refine ⟨_, hfound, ?_⟩
  rw [List.map_map, ← Json.names_of_entries hnamed]
  rfl

end Clause

lemma resolveJoinMember_other {m : String × Json} (hsource : m.1 ≠ "source-table")
    (hcondition : m.1 ≠ "condition") : c.resolveJoinMember m = m := by
  rw [resolveJoinMember, if_neg hsource, if_neg hcondition]

lemma joinKept_resolved (c : Catalog) (join : List (String × Json)) :
    JoinKept join (join.map c.resolveJoinMember) := by
  constructor
  · exact names_resolveJoinMembers c join
  · intro i m hm hsource hcondition
    rw [List.getElem?_map, hm, Option.map_some, resolveJoinMember_other hsource hcondition]

/-! ## Queries -/

/-- What resolving leaves alone: `out` are the members that it makes of `members`. -/
structure Frames (c : Catalog) (members out : List (String × Json)) : Prop where
  /-- The known clauses that the query has are written, in a fixed order, and nothing else. -/
  names : out.map Prod.fst
    = clauseNames.filter fun name => (Json.find? name members).isSome
  /-- Other members, and the order of all members, are of no account. -/
  others : ∀ members', (members'.map Prod.fst).Nodup →
    (knownClauses members').Perm (knownClauses members) →
      c.resolveQuery (.object members') = .ok (.object out)
  /-- The limit stays. -/
  limit : Json.find? "limit" out = Json.find? "limit" members
  /-- A source that is no whole number stays. -/
  source : ∀ v, Json.find? "source-table" members = some v → (∀ id, v ≠ .int id) →
    Json.find? "source-table" out = some v
  /-- A clause that lists expressions keeps their number, each made of the one in its place. -/
  listed : ∀ name ∈ listClauses, ∀ items, Json.find? name members = some (.list items) →
    ∃ items', Json.find? name out = some (.list items') ∧ Itemwise c.resolve items items'
  /-- So does the clause of joins, where a join that is an object also keeps its members. -/
  joins : ∀ joins, Json.find? "joins" members = some (.list joins) →
    ∃ joins', Json.find? "joins" out = some (.list joins') ∧ Itemwise c.resolveJoin joins joins'
      ∧ ∀ (i : ℕ) join, joins[i]? = some (.object join) →
        ∃ join', joins'[i]? = some (.object join') ∧ JoinKept join join'
  /-- Named expressions keep their names and their order. -/
  expressions : ∀ v, Json.find? "expressions" members = some v →
    ∃ named, Json.find? "expressions" out = some (.object named) ∧ named.map Prod.fst = v.names

/-- **The frame.**  Whatever a query has, resolving writes its known clauses alone, in a fixed order,
and keeps of each of them what it does not resolve. -/
theorem resolveQuery_frames {members : List (String × Json)} {r : Json}
    (h : c.resolveQuery (.object members) = .ok r) :
    ∃ out, r = .object out ∧ c.Frames members out := by
  have hquery := h
  simp only [resolveQuery, bind_eq_ok, pure_eq_ok] at h
  obtain ⟨out, hout, rfl⟩ := h
  refine ⟨out, rfl, ?_⟩
  constructor
  case names => exact names_resolveClauses hout
  case others =>
    intro members' hnames hsame
    rw [resolveQuery_congr_members hsame hnames, hquery]
  case limit => exact find?_limit hout
  case source => exact fun v hv hother => find?_source hout hv hother
  case listed =>
    intro name hname items hitems
    exact ⟨_, find?_listed hout hname hitems, itemwise_map c.resolve items⟩
  case joins =>
    intro joins hjoins
    have hitems : Itemwise c.resolveJoin joins (joins.map c.resolveJoin) := itemwise_map _ joins
    refine ⟨_, find?_joins hout hjoins, hitems, fun i join hjoin => ?_⟩
    exact ⟨_, hitems.2 i _ hjoin, joinKept_resolved c join⟩
  case expressions => exact fun v hv => find?_expressions hout hv

/-- A query on a saved question, with a join that lists a field: the same query with its members in
another order, and without its database, is resolved to the same, and the list of fields stays. -/
theorem resolveQuery_frames_reordered :
    let c : Catalog := ⟨Keyed.empty,
      Keyed.empty.insert (.int 10) ⟨.str "STATUS", .str "PUBLIC.ORDERS"⟩⟩
    let reference : Json := .list [.str "field", .int 10]
    let join : List (String × Json) := [("fields", .list [reference]), ("condition", reference)]
    let source : String × Json := ("source-table", .str "card__7")
    let joins : String × Json := ("joins", .list [.object join])
    let limit : String × Json := ("limit", .int 5)
    ∃ out, c.resolveQuery (.object [limit, ("database", .int 3), joins, source])
        = .ok (.object out)
      ∧ c.resolveQuery (.object [source, limit, joins]) = .ok (.object out)
      ∧ out.map Prod.fst = ["source-table", "joins", "limit"]
      ∧ Json.find? "source-table" out = some (.str "card__7")
      ∧ ∃ joins' join', Json.find? "joins" out = some (.list joins')
        ∧ joins'[0]? = some (.object join') ∧ join'.map Prod.fst = ["fields", "condition"]
        ∧ join'[0]? = some ("fields", .list [reference]) := by
  intro c reference join source joins limit
  obtain ⟨r, hr⟩ : ∃ r,
      c.resolveQuery (.object [limit, ("database", .int 3), joins, source]) = .ok r := ⟨_, rfl⟩
  obtain ⟨out, rfl, hframes⟩ := resolveQuery_frames hr
  have hperm : (knownClauses [source, limit, joins]).Perm
      (knownClauses [limit, ("database", .int 3), joins, source]) :=
    (List.perm_append_singleton source [limit, joins]).symm
  obtain ⟨joins', hjoins', -, hkept⟩ := hframes.joins _ rfl
  obtain ⟨join', hjoin', hnames, hmembers⟩ := hkept 0 join rfl
  have hsource := hframes.source (.str "card__7") rfl (by simp)
  have hfields := hmembers 0 _ rfl (by decide) (by decide)
  exact ⟨out, hr, hframes.others _ (by decide) hperm, hframes.names.trans rfl, hsource,
    joins', join', hjoins', hjoin', hnames, hfields⟩

end Catalog

end DashboardSurvey
