import DashboardSurvey.Metabase.Client
import DashboardSurvey.Proofs.Steps
import Mathlib.Data.List.TakeWhile

/-!
# Where requests go

An address is read in several stages, and a request puts a path after the target of the address that
a connection starts from.  Once an address is in its written form, these stages change nothing more,
so that the target of a request can be told from that of the connection.

* `splitChars_joinChars`, `splitChars_flatMap` — pieces of a path, found again after they were put
  together or written.
* `Straight`, `Rooted`, `Address.Written` — paths without steps, paths that start with a slash, and
  addresses in their written form; `written_of_ofText`, `written_of_base` — those that were read.
* `Address.append`, `retarget_of_fits` — an address with characters after its target.
* `Plain`, `plain_dashboardPath`, `plain_tablePath` — paths without characters that mean something.
* **`extend_of_plain`**, `extend_of_not_fits` — where a request for a plain path goes, if there is
  room for it, and that it goes nowhere else.
* `Connection.address_of_plain` — the same over a connection to the web.
* `Reply.reaching`, `Reply.received_of_isWeb` — what comes back over it.
-/

namespace DashboardSurvey

/-! ## Pieces between separators -/

section Pieces

variable {sep : Char} {xs ys : List Char} {p : List Char} {ps pieces : List (List Char)}

/-- Characters without a separator go to the first piece. -/
lemma splitChars_append_of_not_mem (h : sep ∉ xs) (hys : splitChars sep ys = p :: ps) :
    splitChars sep (xs ++ ys) = (xs ++ p) :: ps := by
  induction xs with
  | nil => exact hys
  | cons c rest ih =>
      rw [List.mem_cons, not_or] at h
      rw [List.cons_append, splitChars, if_neg (Ne.symm h.1), ih h.2]
      rfl

lemma splitChars_of_not_mem (h : sep ∉ xs) : splitChars sep xs = [xs] := by
  have hone : splitChars sep (xs ++ []) = [xs ++ []] := splitChars_append_of_not_mem h rfl
  rwa [List.append_nil] at hone

/-- A separator ends the pieces before it. -/
lemma splitChars_append_sep :
    splitChars sep (xs ++ sep :: ys) = splitChars sep xs ++ splitChars sep ys := by
  induction xs with
  | nil => simp [splitChars]
  | cons c rest ih =>
      rw [List.cons_append, splitChars, splitChars]
      split_ifs with hc
      · rw [ih, List.cons_append]
      · rw [ih]
        cases hrest : splitChars sep rest with
        | nil => exact absurd hrest (splitChars_ne_nil sep rest)
        | cons piece rest => rfl

lemma not_mem_of_mem_splitChars {cs : List Char} (h : p ∈ splitChars sep cs) : sep ∉ p := by
  induction cs generalizing p with
  | nil =>
      rw [splitChars, List.mem_singleton] at h
      simp [h]
  | cons c rest ih =>
      rw [splitChars] at h
      split_ifs at h with hc
      · rcases List.mem_cons.mp h with rfl | h
        · simp
        · exact ih h
      · cases hrest : splitChars sep rest with
        | nil => exact absurd hrest (splitChars_ne_nil sep rest)
        | cons piece pieces =>
            rw [hrest] at h
            rcases List.mem_cons.mp h with rfl | h
            · rw [List.mem_cons, not_or]
              exact ⟨Ne.symm hc, ih (hrest ▸ List.mem_cons_self)⟩
            · exact ih (hrest ▸ List.mem_cons_of_mem _ h)

lemma mem_joinChars (hp : p ∈ pieces) {c : Char} (hc : c ∈ p) : c ∈ joinChars sep pieces := by
  fun_induction joinChars sep pieces with
  | case1 => cases hp
  | case2 piece => rwa [← List.mem_singleton.mp hp]
  | case3 piece pieces hne ih =>
      rcases List.mem_cons.mp hp with rfl | hp
      · exact List.mem_append_left _ hc
      · exact List.mem_append_right _ (List.mem_cons_of_mem _ (ih hp))

/-- The pieces have no other characters than the whole. -/
lemma mem_of_mem_splitChars {cs : List Char} (hp : p ∈ splitChars sep cs) {c : Char} (hc : c ∈ p) :
    c ∈ cs :=
  joinChars_splitChars sep cs ▸ mem_joinChars hp hc

/-- Pieces without separators are found again. -/
lemma splitChars_joinChars (hne : pieces ≠ []) (h : ∀ p ∈ pieces, sep ∉ p) :
    splitChars sep (joinChars sep pieces) = pieces := by
  induction pieces with
  | nil => exact absurd rfl hne
  | cons p rest ih =>
      have hp := h p List.mem_cons_self
      cases rest with
      | nil => exact splitChars_of_not_mem hp
      | cons q rest =>
          have hrest := ih (List.cons_ne_nil q rest) fun r hr => h r (List.mem_cons_of_mem p hr)
          rw [joinChars, splitChars_append_sep, splitChars_of_not_mem hp, hrest]
          · rfl
          · simp

/-- Characters that are written each in its own way, the separator as it is. -/
lemma splitChars_flatMap {f : Char → List Char} (hsep : f sep = [sep])
    (hother : ∀ c ≠ sep, sep ∉ f c) (cs : List Char) :
    splitChars sep (cs.flatMap f) = (splitChars sep cs).map fun p => p.flatMap f := by
  induction cs with
  | nil => rfl
  | cons c rest ih =>
      rw [List.flatMap_cons, splitChars]
      split_ifs with hc
      · rw [hc, hsep, List.singleton_append, splitChars, if_pos rfl, ih]
        rfl
      · cases hrest : splitChars sep rest with
        | nil => exact absurd hrest (splitChars_ne_nil sep rest)
        | cons piece pieces =>
            rw [hrest, List.map_cons] at ih
            exact splitChars_append_of_not_mem (hother c hc) ih

end Pieces

namespace Address

/-! ## Percent signs -/

/-- What a character that may not stand is written with. -/
def marks : List Char := "%0123456789ABCDEF".toList

lemma mem_marks_of_mem_percentByte {b : UInt8} {d : Char} (h : d ∈ percentByte b) : d ∈ marks := by
  have hdigit : ∀ n < 16, (Nat.digitChar n).toUpper ∈ marks := by decide
  have hb : b.toNat < 256 := b.toNat_lt
  simp only [percentByte, List.mem_cons, List.not_mem_nil, or_false] at h
  rcases h with rfl | rfl | rfl
  · decide
  · exact hdigit _ (by omega)
  · exact hdigit _ (by omega)

lemma mem_marks_of_mem_percentChar {c d : Char} (h : d ∈ percentChar c) : d ∈ marks := by
  obtain ⟨b, -, hd⟩ := List.mem_flatMap.mp h
  exact mem_marks_of_mem_percentByte hd

lemma toList_loop_ne_nil (bs : ByteArray) (i : Nat) (r : List UInt8) (h : i < bs.size ∨ r ≠ []) :
    ByteArray.toList.loop bs i r ≠ [] := by
  fun_induction ByteArray.toList.loop bs i r with
  | case1 i r hi ih => exact ih (Or.inr (List.cons_ne_nil _ _))
  | case2 i r hi =>
      rcases h with h | h
      · exact absurd h hi
      · simpa using h

/-- A character that may not stand is written with at least one mark. -/
lemma percentChar_eq_cons (c : Char) : ∃ rest, percentChar c = '%' :: rest := by
  have hsize : 0 < (String.singleton c).toUTF8.size := by
    simp [List.utf8Encode_singleton, c.utf8Size_pos]
  have hne : utf8Bytes (String.singleton c) ≠ [] := toList_loop_ne_nil _ 0 [] (Or.inl hsize)
  obtain ⟨b, bs, hbs⟩ := List.exists_cons_of_ne_nil hne
  exact ⟨_, by rw [percentChar, hbs]; rfl⟩

/-- What is written has a property if the characters that may stand have it, and the marks. -/
lemma forall_percentEncode {stands : Char → Bool} {P : Char → Prop}
    (hstands : ∀ c, stands c = true → P c) (hmarks : ∀ d ∈ marks, P d) (cs : List Char) :
    ∀ d ∈ percentEncode stands cs, P d := by
  intro d hd
  obtain ⟨c, -, hd⟩ := List.mem_flatMap.mp hd
  split_ifs at hd with hc
  · rw [List.mem_singleton] at hd
    exact hd ▸ hstands c hc
  · exact hmarks d (mem_marks_of_mem_percentChar hd)

lemma isQueryChar_of_isPathChar {c : Char} (h : isPathChar c = true) : isQueryChar c = true :=
  (Bool.and_eq_true _ _ ▸ h).1

lemma ne_question_of_isPathChar {c : Char} (h : isPathChar c = true) : c ≠ '?' := by
  rintro rfl
  exact absurd h (by decide)

lemma toNat_lt_of_isQueryChar {c : Char} (h : isQueryChar c = true) : c.toNat < 0x7f := by
  simp only [isQueryChar, Bool.and_eq_true, decide_eq_true_eq] at h
  exact h.1.2

lemma ne_halfMark_of_lt {c : Char} (h : c.toNat < 0x80) : c ≠ halfMark := by
  rintro rfl
  exact absurd h (by decide)

/-- Characters that may all stand are written as they are. -/
lemma encode_of_all {stands : Char → Bool} (hstands : ∀ c, stands c = true → isQueryChar c = true)
    {cs : List Char} (h : ∀ c ∈ cs, stands c = true) : encode stands cs = .ok cs := by
  have hlt : ∀ c ∈ cs, c.toNat < 0x7f := fun c hc => toNat_lt_of_isQueryChar (hstands c (h c hc))
  have hmark : ∀ c ∈ cs, c ≠ halfMark := fun c hc => ne_halfMark_of_lt (by have := hlt c hc; omega)
  have hnone : (codes cs).find? isHalf = none := by
    rw [codes_of_all hmark, List.find?_eq_none, List.forall_mem_map]
    intro c hc
    have hc := hlt c hc
    simp only [isHalf, Bool.and_eq_true, decide_eq_true_eq]
    omega
  rw [encode, hnone, heldChars_of_all hmark, percentEncode_of_all h]

lemma all_of_encode {stands : Char → Bool} (hmarks : ∀ d ∈ marks, stands d = true)
    {cs ds : List Char} (h : encode stands cs = .ok ds) : ∀ d ∈ ds, stands d = true := by
  rw [encode] at h
  split at h
  · cases h
  · cases h
    exact forall_percentEncode (fun c hc => hc) hmarks _

/-! ## Paths without steps -/

/-- Is a piece of a path a step, one that stays or one up? -/
def IsStep (piece : List Char) : Prop := piece = ['.'] ∨ piece = ['.', '.']

/-- No piece of the path is a step. -/
def Straight (path : List Char) : Prop := ∀ piece ∈ splitChars '/' path, ¬ IsStep piece

lemma takeSteps_of_no_step {pieces : List (List Char)} (h : ∀ piece ∈ pieces, ¬ IsStep piece)
    (before : List (List Char)) : takeSteps before pieces = before.reverse ++ pieces := by
  induction pieces generalizing before with
  | nil => simp [takeSteps]
  | cons piece rest ih =>
      have hpiece := h piece List.mem_cons_self
      rw [IsStep, not_or] at hpiece
      rw [takeSteps, ih (fun p hp => h p (List.mem_cons_of_mem _ hp))]
      · simp
      · exact hpiece.1
      · exact hpiece.2

lemma straighten_of_straight {path : List Char} (h : Straight path) : straighten path = path := by
  rw [straighten, takeSteps_of_no_step h, List.reverse_nil, List.nil_append, joinChars_splitChars]

/-- What is left of the pieces are such as were there before, and no steps. -/
lemma mem_takeSteps {before pieces : List (List Char)} {piece : List Char}
    (h : piece ∈ takeSteps before pieces) : piece ∈ before ∨ piece ∈ pieces ∧ ¬ IsStep piece := by
  fun_induction takeSteps before pieces with
  | case1 before => exact Or.inl (List.mem_reverse.mp h)
  | case2 before rest ih =>
      rcases ih h with hb | ⟨hr, hs⟩
      · exact Or.inl hb
      · exact Or.inr ⟨List.mem_cons_of_mem _ hr, hs⟩
  | case3 before rest ih =>
      rcases ih h with hb | ⟨hr, hs⟩
      · refine Or.inl ?_
        split_ifs at hb
        · exact hb
        · exact List.mem_of_mem_tail hb
      · exact Or.inr ⟨List.mem_cons_of_mem _ hr, hs⟩
  | case4 before piece' rest h1 h2 ih =>
      rcases ih h with hb | ⟨hr, hs⟩
      · rcases List.mem_cons.mp hb with rfl | hb
        · exact Or.inr ⟨List.mem_cons_self, not_or.mpr ⟨h1, h2⟩⟩
        · exact Or.inl hb
      · exact Or.inr ⟨List.mem_cons_of_mem _ hr, hs⟩

lemma not_step_of_mem_takeSteps {pieces : List (List Char)} {piece : List Char}
    (h : piece ∈ takeSteps [] pieces) : piece ∈ pieces ∧ ¬ IsStep piece := by
  rcases mem_takeSteps h with hb | h
  · exact absurd hb List.not_mem_nil
  · exact h

/-- A slash at the start stays there, unless nothing else is left. -/
lemma takeSteps_head {before : List (List Char)} (h : before.getLast? = some [])
    (pieces : List (List Char)) : ∃ rest, takeSteps before pieces = [] :: rest := by
  -- the pieces so far stand backwards, so that of the slash at the start is the last of them
  fun_induction takeSteps before pieces with
  | case1 before =>
      rw [← List.head?_reverse] at h
      exact ⟨before.reverse.tail, (List.eq_cons_of_mem_head? h)⟩
  | case2 before rest ih => exact ih h
  | case3 before rest ih =>
      refine ih ?_
      split_ifs with hone
      · exact h
      · cases before with
        | nil => exact absurd h (by simp)
        | cons piece before =>
            cases before with
            | nil =>
                simp only [List.getLast?_singleton, Option.some.injEq] at h
                exact absurd (by rw [h]) hone
            | cons piece' before => simpa using h
  | case4 before piece rest h1 h2 ih =>
      refine ih ?_
      cases before with
      | nil => exact absurd h (by simp)
      | cons piece' before => simpa using h

/-! ## Written paths -/

/-- How a character of a path is written. -/
def pathChars (c : Char) : List Char := if isPathChar c then [c] else percentChar c

lemma not_mem_pathChars {c : Char} (hc : c ≠ '/') : '/' ∉ pathChars c := by
  rw [pathChars]
  split_ifs
  · rw [List.mem_singleton]
    exact hc.symm
  · intro h
    exact absurd (mem_marks_of_mem_percentChar h) (by decide)

/-- What is written without a percent sign was the same before. -/
lemma eq_of_written {cs ds : List Char} (h : cs.flatMap pathChars = ds) (hds : '%' ∉ ds) :
    cs = ds := by
  have hstands : ∀ c ∈ cs, isPathChar c = true := by
    intro c hc
    by_contra hno
    obtain ⟨rest, hrest⟩ := percentChar_eq_cons c
    refine hds (h ▸ List.mem_flatMap.mpr ⟨c, hc, ?_⟩)
    rw [pathChars, if_neg hno, hrest]
    exact List.mem_cons_self
  exact (percentEncode_of_all hstands).symm.trans h

/-- A piece that is a step was one before it was written. -/
lemma isStep_of_written {piece : List Char} (h : IsStep (piece.flatMap pathChars)) :
    IsStep piece := by
  rcases h with h | h
  · exact Or.inl (eq_of_written h (by decide))
  · exact Or.inr (eq_of_written h (by decide))

/-! ## The characters of a path -/

lemma heldChars_cons {c : Char} (h : c.toNat < 0x80) (cs : List Char) :
    heldChars (c :: cs) = c :: heldChars cs := by
  rw [heldChars, codes_cons_of_ne (ne_halfMark_of_lt h), List.map_cons, Char.ofNat_toNat]
  rfl

/-- A character of ASCII belongs to nothing before it. -/
lemma heldChars_append {c : Char} (h : c.toNat < 0x80) (xs ys : List Char) :
    heldChars (xs ++ c :: ys) = heldChars xs ++ c :: heldChars ys := by
  have hcodes : codes (xs ++ c :: ys) = codes xs ++ codes (c :: ys) := by
    fun_induction codes xs with
    | case1 => rfl
    | case2 d =>
        have hno : startsMarked d c = false := by
          have hle : ¬ 0xe000 ≤ c.toNat := by omega
          simp [startsMarked, hle]
        rw [List.singleton_append, codes, hno]
        rfl
    | case3 d e rest hstarts ih =>
        rw [List.cons_append, List.cons_append, codes, if_pos hstarts, ih]
        rfl
    | case4 d e rest hstarts ih =>
        rw [List.cons_append, List.cons_append, codes, if_neg hstarts, ← List.cons_append, ih]
        rfl
  rw [heldChars, hcodes, List.map_append]
  exact congrArg (heldChars xs ++ ·) (heldChars_cons h ys)

/-- What a marked character stands for is not ASCII, or no character at all. -/
lemma ofNat_of_startsMarked {c d : Char} (h : startsMarked c d = true) :
    Char.ofNat (d.toNat - 0x801) = '\x00' ∨ 0x80 ≤ (Char.ofNat (d.toNat - 0x801)).toNat := by
  simp only [startsMarked, Bool.and_eq_true, decide_eq_true_eq] at h
  by_cases hvalid : (d.toNat - 0x801).isValidChar
  · rw [Char.ofNat, dif_pos hvalid]
    refine Or.inr ?_
    change 0x80 ≤ d.toNat - 0x801
    omega
  · rw [Char.ofNat, dif_neg hvalid]
    exact Or.inl rfl

/-- Characters of ASCII are told by themselves alone. -/
lemma eq_of_heldChars {cs ds : List Char} (h : heldChars cs = ds)
    (hds : ∀ c ∈ ds, c ≠ '\x00' ∧ c.toNat < 0x80) : cs = ds := by
  subst h
  rw [heldChars] at hds ⊢
  fun_induction codes cs with
  | case1 => rfl
  | case2 c => rw [List.map_singleton, Char.ofNat_toNat]
  | case3 c d rest hstarts ih =>
      have hhead := hds _ List.mem_cons_self
      rcases ofNat_of_startsMarked hstarts with h | h
      · exact absurd h hhead.1
      · exact absurd hhead.2 (Nat.not_lt.mpr h)
  | case4 c d rest hstarts ih =>
      rw [List.map_cons, Char.ofNat_toNat, ← ih fun e he => hds e (List.mem_cons_of_mem _ he)]

lemma isStep_of_held {piece : List Char} (h : IsStep (heldChars piece)) : IsStep piece := by
  rcases h with h | h
  · exact Or.inl (eq_of_heldChars h (by simp))
  · exact Or.inr (eq_of_heldChars h (by simp))

lemma mem_of_mem_heldChars {cs : List Char} (h : '/' ∈ heldChars cs) : '/' ∈ cs := by
  rw [heldChars] at h
  fun_induction codes cs with
  | case1 => cases h
  | case2 c => rwa [List.map_singleton, Char.ofNat_toNat] at h
  | case3 c d rest hstarts ih =>
      rcases List.mem_cons.mp h with h | h
      · rcases ofNat_of_startsMarked hstarts with hzero | hle
        · rw [hzero] at h
          exact absurd h (by decide)
        · rw [← h] at hle
          exact absurd hle (by decide)
      · exact List.mem_cons_of_mem _ (List.mem_cons_of_mem _ (ih h))
  | case4 c d rest hstarts ih =>
      rw [List.map_cons, Char.ofNat_toNat] at h
      rcases List.mem_cons.mp h with rfl | h
      · exact List.mem_cons_self
      · exact List.mem_cons_of_mem _ (ih h)

/-- The pieces of a path hold its characters. -/
lemma splitChars_heldChars (path : List Char) :
    splitChars '/' (heldChars path) = (splitChars '/' path).map heldChars := by
  have hjoin : ∀ pieces, heldChars (joinChars '/' pieces)
      = joinChars '/' (pieces.map heldChars) := by
    intro pieces
    fun_induction joinChars '/' pieces with
    | case1 => rfl
    | case2 piece => rfl
    | case3 piece pieces hne ih =>
        rw [heldChars_append (by decide), ih, List.map_cons, joinChars]
        simpa using hne
  have hpieces : ∀ piece ∈ (splitChars '/' path).map heldChars, '/' ∉ piece := by
    rw [List.forall_mem_map]
    exact fun p hp hmem => not_mem_of_mem_splitChars hp (mem_of_mem_heldChars hmem)
  have hheld := hjoin (splitChars '/' path)
  rw [joinChars_splitChars] at hheld
  rw [hheld, splitChars_joinChars (by simp [splitChars_ne_nil]) hpieces]

/-! ## Addresses in their written form -/

lemma straight_append_slash {xs ys : List Char} :
    Straight (xs ++ '/' :: ys) ↔ Straight xs ∧ Straight ys := by
  rw [Straight, splitChars_append_sep, List.forall_mem_append]
  rfl

/-- A path without points has no steps. -/
lemma straight_of_not_mem {path : List Char} (h : '.' ∉ path) : Straight path := by
  intro piece hpiece hstep
  refine h (mem_of_mem_splitChars hpiece ?_)
  rcases hstep with rfl | rfl <;> decide

/-- A path that was straightened and written is straight. -/
lemma straight_of_encode {path written : List Char}
    (h : encode isPathChar (straighten path) = .ok written) : Straight written := by
  have hwritten : written = (heldChars (straighten path)).flatMap pathChars := by
    rw [encode] at h
    split at h
    · cases h
    · exact (Except.ok.inj h).symm
  -- writing a path neither makes a slash nor loses one, so pieces are written each on its own
  rw [hwritten, Straight, splitChars_flatMap (by decide) fun c hc => not_mem_pathChars hc,
    splitChars_heldChars, List.map_map]
  intro piece hpiece
  obtain ⟨before, hbefore, rfl⟩ := List.mem_map.mp hpiece
  intro hstep
  have hstep : IsStep before := isStep_of_held (isStep_of_written hstep)
  rw [straighten] at hbefore
  by_cases hnone : takeSteps [] (splitChars '/' path) = []
  · rw [hnone, joinChars, splitChars, List.mem_singleton] at hbefore
    rcases hstep with h | h <;> rw [hbefore] at h <;> cases h
  · rw [splitChars_joinChars hnone fun p hp =>
      not_mem_of_mem_splitChars (not_step_of_mem_takeSteps hp).1] at hbefore
    exact (not_step_of_mem_takeSteps hbefore).2 hstep

/-- Is the path empty, or does it start with a slash? -/
def Rooted (path : List Char) : Prop := path = [] ∨ ∃ rest, path = '/' :: rest

lemma rooted_straighten {path : List Char} (h : Rooted path) : Rooted (straighten path) := by
  rcases h with rfl | ⟨rest, rfl⟩
  · exact Or.inl rfl
  · obtain ⟨pieces, hpieces⟩ := takeSteps_head List.getLast?_singleton (splitChars '/' rest)
    have hsplit : takeSteps [] (splitChars '/' ('/' :: rest)) = [] :: pieces := by
      rw [splitChars, if_pos rfl, takeSteps, hpieces]
      · simp
      · simp
    rw [straighten, hsplit]
    cases pieces with
    | nil => exact Or.inl rfl
    | cons piece pieces => exact Or.inr ⟨_, rfl⟩

lemma rooted_encode {path written : List Char} (h : encode isPathChar path = .ok written)
    (hpath : Rooted path) : Rooted written := by
  rw [encode] at h
  split at h
  · cases h
  · rcases hpath with rfl | ⟨rest, rfl⟩
    · exact Or.inl (Except.ok.inj h).symm
    · rw [heldChars_cons (by decide)] at h
      exact Or.inr ⟨_, (Except.ok.inj h).symm⟩

/-- An address with a scheme whose path and query are in their written form. -/
structure Written (a : Address) : Prop where
  scheme : a.scheme ≠ ""
  path : ∀ c ∈ a.path, isPathChar c = true
  straight : Straight a.path
  rooted : a.hasAuthority → Rooted a.path
  query : ∀ q ∈ a.query, ∀ c ∈ q, isQueryChar c = true

variable {a b : Address} {path r : List Char} {query : Option (List Char)}

/-- An address with a scheme may have every path, or every rooted one if it has an authority. -/
lemma checkPath_eq_ok_iff (hscheme : a.scheme ≠ "") :
    a.checkPath path = .ok () ↔ (a.hasAuthority → Rooted path) := by
  rw [checkPath.eq_def, if_pos hscheme]
  split_ifs with hauthority hroot
  · cases path with
    | nil => simp [Rooted]
    | cons c rest => simpa [Rooted, hauthority] using hroot
  · cases path with
    | nil => simp at hroot
    | cons c rest => simpa [Rooted, hauthority] using hroot
  · simp [hauthority]

/-- Another path and query bring an address into its written form. -/
lemma written_of_withTarget (hscheme : a.scheme ≠ "") (h : a.withTarget path query = .ok b) :
    b.Written := by
  rw [withTarget] at h
  obtain ⟨_, hcheck, h⟩ := bind_eq_ok.mp h
  rw [if_pos (Or.inl hscheme)] at h
  obtain ⟨p, hp, h⟩ := bind_eq_ok.mp h
  obtain ⟨q, hq, h⟩ := bind_eq_ok.mp h
  obtain rfl := Except.ok.inj h
  refine ⟨hscheme, all_of_encode (List.all_eq_true.mp (by decide)) hp, straight_of_encode hp,
    fun hauthority => ?_, ?_⟩
  · exact rooted_encode hp (rooted_straighten ((checkPath_eq_ok_iff hscheme).mp hcheck hauthority))
  · cases query with
    | none =>
        obtain rfl := Except.ok.inj hq
        simp
    | some cs =>
        obtain ⟨ds, hds, rfl⟩ := map_eq_ok.mp hq
        intro q hq
        obtain rfl := Option.mem_some_iff.mp hq
        exact all_of_encode (List.all_eq_true.mp (by decide)) hds

/-- A path and a query in written form stay as they are. -/
lemma withTarget_of_all (hscheme : a.scheme ≠ "") (hpath : ∀ c ∈ path, isPathChar c = true)
    (hstraight : Straight path) (hrooted : a.hasAuthority → Rooted path)
    (hquery : ∀ q ∈ query, ∀ c ∈ q, isQueryChar c = true) :
    a.withTarget path query = .ok { a with path, query } := by
  have hwritten : query.mapM (encode isQueryChar) = .ok query := by
    cases query with
    | none => rfl
    | some q => rw [Option.mapM_some, encode_of_all (fun c hc => hc) (hquery q rfl)]; rfl
  simp only [withTarget, (checkPath_eq_ok_iff hscheme).mpr hrooted, hscheme, ne_eq,
    not_false_eq_true, true_or, if_true, straighten_of_straight hstraight, hwritten, ok_bind,
    encode_of_all (fun c hc => isQueryChar_of_isPathChar hc) hpath]
  rfl

/-! ## Longer targets -/

/-- The path, which is a slash if nothing is written. -/
def rootPath (a : Address) : List Char := if a.path.isEmpty then ['/'] else a.path

/-- The address with characters after its target. -/
def append (a : Address) (r : List Char) : Address :=
  match a.query with
  | none => { a with path := a.rootPath ++ r }
  | some q => { a with path := a.rootPath, query := some (q ++ r) }

@[simp] lemma scheme_append (a : Address) (r : List Char) : (a.append r).scheme = a.scheme := by
  rw [append]
  split <;> rfl

@[simp] lemma host_append (a : Address) (r : List Char) : (a.append r).host = a.host := by
  rw [append]
  split <;> rfl

@[simp] lemma hasAuthority_append (a : Address) (r : List Char) :
    (a.append r).hasAuthority = a.hasAuthority := by
  rw [append]
  split <;> rfl

lemma rootPath_ne_nil (a : Address) : a.rootPath ≠ [] := by
  rw [rootPath]
  split_ifs with h
  · simp
  · simpa using h

lemma rootPath_of_ne_nil (h : a.path ≠ []) : a.rootPath = a.path := by
  rw [rootPath, if_neg (by simpa using h)]

lemma target_of_none (h : a.query = none) : a.target = a.rootPath := by
  rw [target, h, List.append_nil]
  rfl

lemma target_of_some {q : List Char} (h : a.query = some q) :
    a.target = a.rootPath ++ '?' :: q := by
  rw [target, h]
  rfl

/-- Only the path and the query are different. -/
lemma with_append (a : Address) (r : List Char) :
    { a with path := (a.append r).path, query := (a.append r).query } = a.append r := by
  rw [append]
  split <;> rfl

lemma target_append (a : Address) (r : List Char) : (a.append r).target = a.target ++ r := by
  have hne := a.rootPath_ne_nil
  cases hq : a.query with
  | none =>
      simp only [append, hq, target_of_none]
      exact rootPath_of_ne_nil (by simp [hne])
  | some q =>
      have hroot : ({ a with path := a.rootPath, query := some (q ++ r) } : Address).rootPath
          = a.rootPath := rootPath_of_ne_nil hne
      simp only [append, hq]
      rw [target_of_some rfl, target_of_some hq, hroot, List.append_assoc, List.cons_append]

/-- None of the parts of the address is too long. -/
def Fits (a : Address) : Prop := ∀ part ∈ a.parts, part.2.length ≤ longest

instance (a : Address) : Decidable a.Fits :=
  inferInstanceAs (Decidable (∀ part ∈ a.parts, part.2.length ≤ longest))

lemma Fits.length_path (h : a.Fits) : a.path.length ≤ longest := h ("path", a.path) (by simp [parts])

lemma Fits.length_query (h : a.Fits) : (a.query.getD []).length ≤ longest :=
  h ("query", a.query.getD []) (by simp [parts])

/-- These are the addresses that can be put together anew. -/
lemma checkParts_eq_ok_iff : a.checkParts = .ok () ↔ a.Fits := by
  rw [checkParts, Fits]
  cases hfind : a.parts.find? fun part => longest < part.2.length with
  | none => simpa using hfind
  | some part =>
      have hlong : longest < part.2.length := by simpa using List.find?_some hfind
      simp only [reduceCtorEq, false_iff]
      exact fun h => absurd (h part (List.mem_of_find?_eq_some hfind)) (Nat.not_le.mpr hlong)

namespace Written

lemma path_rootPath (ha : a.Written) : ∀ c ∈ a.rootPath, isPathChar c = true := by
  rw [rootPath]
  split_ifs
  · exact List.all_eq_true.mp (by decide)
  · exact ha.path

lemma rooted_rootPath (ha : a.Written) (h : a.hasAuthority) (r : List Char) :
    Rooted (a.rootPath ++ r) := by
  rw [rootPath]
  split_ifs with hnil
  · exact Or.inr ⟨_, rfl⟩
  · rcases ha.rooted h with hpath | ⟨rest, hpath⟩
    · simp [hpath] at hnil
    · exact Or.inr ⟨rest ++ r, by rw [hpath]; rfl⟩

lemma straight_rootPath (ha : a.Written) : Straight a.rootPath := by
  rw [rootPath]
  split_ifs
  · exact straight_of_not_mem (by decide)
  · exact ha.straight

end Written

lemma splitFirst_of_not_mem {sep : Char} {cs : List Char} (h : sep ∉ cs) :
    splitFirst sep cs = (cs, none) := by
  have hall : ∀ c ∈ cs, (c ≠ sep : Bool) = true := by
    intro c hc
    simpa using fun heq : c = sep => h (heq ▸ hc)
  rw [splitFirst, List.dropWhile_eq_nil_iff.mpr hall, List.takeWhile_eq_self_iff.mpr hall]

lemma splitFirst_append {sep : Char} {cs : List Char} (h : sep ∉ cs) (ds : List Char) :
    splitFirst sep (cs ++ sep :: ds) = (cs, some ds) := by
  have hall : ∀ c ∈ cs, (c ≠ sep : Bool) = true := by
    intro c hc
    simpa using fun heq : c = sep => h (heq ▸ hc)
  rw [splitFirst, List.dropWhile_append_of_pos hall, List.takeWhile_append_of_pos hall]
  simp

/-- The target of a longer address is cut where that of the address is. -/
lemma splitFirst_target_append (ha : a.Written) (hr : ∀ c ∈ r, isPathChar c = true) :
    splitFirst '?' (a.target ++ r) = ((a.append r).path, (a.append r).query) := by
  cases hq : a.query with
  | none =>
      have hmark : '?' ∉ a.rootPath ++ r := fun h =>
        ne_question_of_isPathChar (List.forall_mem_append.mpr ⟨ha.path_rootPath, hr⟩ _ h) rfl
      simp only [append, hq]
      rw [target_of_none hq, splitFirst_of_not_mem hmark]
  | some q =>
      have hmark : '?' ∉ a.rootPath := fun h =>
        ne_question_of_isPathChar (ha.path_rootPath _ h) rfl
      simp only [append, hq]
      rw [target_of_some hq, List.append_assoc, List.cons_append, splitFirst_append hmark]

lemma Written.append (ha : a.Written) (hr : ∀ c ∈ r, isPathChar c = true)
    (hstraight : a.query = none → Straight (a.rootPath ++ r)) : (a.append r).Written := by
  cases hq : a.query with
  | none =>
      simp only [Address.append, hq]
      exact ⟨ha.scheme, List.forall_mem_append.mpr ⟨ha.path_rootPath, hr⟩, hstraight hq,
        fun h => ha.rooted_rootPath h r, by simp⟩
  | some q =>
      simp only [Address.append, hq]
      refine ⟨ha.scheme, ha.path_rootPath, ha.straight_rootPath, fun h => ?_, fun q' hq' => ?_⟩
      · simpa using ha.rooted_rootPath h []
      · obtain rfl := Option.mem_some_iff.mp hq'
        exact List.forall_mem_append.mpr
          ⟨ha.query q hq, fun c hc => isQueryChar_of_isPathChar (hr c hc)⟩

lemma withTarget_append (ha : a.Written) (hr : ∀ c ∈ r, isPathChar c = true)
    (hstraight : a.query = none → Straight (a.rootPath ++ r)) :
    a.withTarget (a.append r).path (a.append r).query = .ok (a.append r) := by
  have hlong := ha.append hr hstraight
  have hwith := withTarget_of_all ha.scheme hlong.path hlong.straight
    (by simpa using hlong.rooted) hlong.query
  exact hwith.trans (congrArg Except.ok (a.with_append r))

/-- **A longer target** is reached by the address with the same characters after its target. -/
theorem retarget_of_fits (ha : a.Written) (hr : ∀ c ∈ r, isPathChar c = true)
    (hstraight : a.query = none → Straight (a.rootPath ++ r)) (hfits : (a.append r).Fits) :
    a.retarget (a.target ++ r) = .ok (a.append r) := by
  simp only [retarget, splitFirst_target_append ha hr, with_append, checkParts_eq_ok_iff.mpr hfits]
  exact withTarget_append ha hr hstraight

/-- A target that is too long is not reached. -/
lemma retarget_of_not_fits (ha : a.Written) (hr : ∀ c ∈ r, isPathChar c = true)
    (hfits : ¬ (a.append r).Fits) : ∃ e, a.retarget (a.target ++ r) = .error e := by
  simp only [retarget, splitFirst_target_append ha hr, with_append]
  cases hcheck : (a.append r).checkParts with
  | error e => exact ⟨e, rfl⟩
  | ok u => exact absurd (checkParts_eq_ok_iff.mp hcheck) hfits

/-! ## Where requests start -/

lemma scheme_of_withTarget (h : a.withTarget path query = .ok b) : b.scheme = a.scheme := by
  rw [withTarget] at h
  obtain ⟨_, -, h⟩ := bind_eq_ok.mp h
  obtain ⟨p, -, h⟩ := bind_eq_ok.mp h
  obtain ⟨q, -, h⟩ := bind_eq_ok.mp h
  obtain rfl := Except.ok.inj h
  rfl

lemma withTarget_of_retarget {cs : List Char} (h : a.retarget cs = .ok b) :
    a.withTarget (splitFirst '?' cs).1 (splitFirst '?' cs).2 = .ok b := by
  rw [retarget] at h
  obtain ⟨_, -, h⟩ := bind_eq_ok.mp h
  exact h

lemma scheme_of_base (h : a.base = .ok b) : b.scheme = a.scheme := by
  rw [base] at h
  split_ifs at h
  · rw [Except.ok.inj h]
  · exact scheme_of_withTarget (withTarget_of_retarget h)

/-- An address that was read, and has a scheme, is in its written form. -/
lemma written_of_ofText {s : String} (h : ofText s = .ok a) (hscheme : a.scheme ≠ "") :
    a.Written := by
  rw [ofText] at h
  split_ifs at h
  split at h
  · cases h
  · rw [ofChars] at h
    obtain ⟨user, -, h⟩ := bind_eq_ok.mp h
    obtain ⟨host, -, h⟩ := bind_eq_ok.mp h
    obtain ⟨port, -, h⟩ := bind_eq_ok.mp h
    obtain ⟨b, hb, h⟩ := bind_eq_ok.mp h
    obtain ⟨fragment, -, h⟩ := bind_eq_ok.mp h
    obtain rfl := Except.ok.inj h
    have hwritten := written_of_withTarget (scheme_of_withTarget hb ▸ hscheme) hb
    exact ⟨hwritten.scheme, hwritten.path, hwritten.straight, hwritten.rooted, hwritten.query⟩

/-- Does a slash end the target? -/
def EndsInSlash (a : Address) : Prop := a.target.getLast? = some '/'

/-- An address to start requests from is in its written form, and a slash ends its target. -/
lemma written_of_base (ha : a.Written) (h : a.base = .ok b) : b.Written ∧ b.EndsInSlash := by
  rw [base] at h
  split_ifs at h with hslash
  · obtain rfl := Except.ok.inj h
    exact ⟨ha, hslash⟩
  · have hr : ∀ c ∈ ['/'], isPathChar c = true := List.all_eq_true.mp (by decide)
    have hstraight : a.query = none → Straight (a.rootPath ++ ['/']) := fun _ =>
      straight_append_slash.mpr ⟨ha.straight_rootPath, straight_of_not_mem (by simp)⟩
    have hfits : (a.append ['/']).Fits := by
      by_contra hfits
      obtain ⟨e, he⟩ := retarget_of_not_fits ha hr hfits
      cases he.symm.trans h
    rw [retarget_of_fits ha hr hstraight hfits] at h
    obtain rfl := Except.ok.inj h
    refine ⟨ha.append hr hstraight, ?_⟩
    rw [EndsInSlash, target_append, List.getLast?_concat]

/-! ## Where requests go -/

/-- May the character stand in a path as it is, and is it not the point? -/
def isPlainChar (c : Char) : Bool := c.isAlphanum || c == '-' || c == '_' || c == '/'

/-- A path of plain characters that starts with one slash. -/
def Plain (path : List Char) : Prop :=
  (∀ c ∈ path, isPlainChar c = true) ∧ ∃ c rest, path = '/' :: c :: rest ∧ c ≠ '/'

lemma toNat_lt_of_isPlainChar {c : Char} (h : isPlainChar c = true) : c.toNat < 128 := by
  -- a capital letter, a small letter, a digit or one of three marks
  have hranges : (((((decide (65 ≤ c.val ∧ c.val ≤ 90) || (97 ≤ c.val && c.val ≤ 122))
      || (48 ≤ c.val && c.val ≤ 57)) || c == '-') || c == '_') || c == '/') = true := h
  simp only [Bool.or_eq_true, Bool.and_eq_true, decide_eq_true_eq, beq_iff_eq,
    UInt32.le_iff_toNat_le] at hranges
  rcases hranges with ((((h | h) | h) | rfl) | rfl) | rfl
  · exact lt_of_le_of_lt h.2 (by decide)
  · exact lt_of_le_of_lt h.2 (by decide)
  · exact lt_of_le_of_lt h.2 (by decide)
  all_goals decide

/-- A plain character may stand in a path, and is printed. -/
lemma plain_facts {c : Char} (h : isPlainChar c = true) :
    isPathChar c = true ∧ isHidden c = false := by
  have hall : ∀ n < 128, isPlainChar (Char.ofNat n) = true →
      isPathChar (Char.ofNat n) = true ∧ isHidden (Char.ofNat n) = false := by decide
  have hc := hall c.toNat (toNat_lt_of_isPlainChar h)
  rw [Char.ofNat_toNat] at hc
  exact hc h

section PlainChars

variable {cs : List Char} {sep : Char}

/-- A character that means something does not stand among plain characters. -/
lemma not_mem_of_plain (hsep : isPlainChar sep = false) (h : ∀ c ∈ cs, isPlainChar c = true) :
    sep ∉ cs := fun hmem => by
  rw [h sep hmem] at hsep
  cases hsep

lemma find?_isHidden_of_plain (h : ∀ c ∈ cs, isPlainChar c = true) : cs.find? isHidden = none :=
  List.find?_eq_none.mpr fun c hc => by simp [(plain_facts (h c hc)).2]

lemma splitFirst_of_plain (hsep : isPlainChar sep = false) (h : ∀ c ∈ cs, isPlainChar c = true) :
    splitFirst sep cs = (cs, none) :=
  splitFirst_of_not_mem (not_mem_of_plain hsep h)

lemma length_codes_of_plain (h : ∀ c ∈ cs, isPlainChar c = true) :
    (codes cs).length = cs.length := by
  rw [codes_of_all fun c hc => ne_halfMark_of_lt (toNat_lt_of_isPlainChar (h c hc)), List.length_map]

lemma straight_of_plain (h : ∀ c ∈ cs, isPlainChar c = true) : Straight cs :=
  straight_of_not_mem (not_mem_of_plain (by decide) h)

end PlainChars

/-- A plain path is read as the path alone. -/
lemma ofText_of_plain {s : String} (h : Plain s.toList) (hlength : s.toList.length ≤ longest) :
    ofText s = .ok ⟨"", [], "", none, s.toList, none, none⟩ := by
  obtain ⟨hall, c, rest, hs, hc⟩ := h
  have hhash : splitFirst '#' s.toList = (s.toList, none) := splitFirst_of_plain (by decide) hall
  have hmark : splitFirst '?' s.toList = (s.toList, none) := splitFirst_of_plain (by decide) hall
  have hencode : encode isPathChar s.toList = .ok s.toList :=
    encode_of_all (fun d hd => isQueryChar_of_isPathChar hd) fun d hd => (plain_facts (hall d hd)).1
  have hscheme : cutScheme s.toList = ([], s.toList) := by
    rw [hs]
    rfl
  have hauthority : cutAuthority s.toList = ([], s.toList) := by
    rw [hs, cutAuthority]
    rintro rest' heq
    cases heq
    exact hc rfl
  have hcheck : (⟨"", [], "", none, [], none, none⟩ : Address).checkPath s.toList = .ok () := by
    rw [hs, checkPath.eq_def]
    split
    · rename_i hsome
      exact absurd hsome (by decide)
    · rw [if_neg (by simp)]
      split
      · rename_i heq
        cases heq
        exact absurd rfl hc
      · rename_i heq
        cases heq
      · rfl
  have hread : (⟨"", [], "", none, [], none, none⟩ : Address).withTarget s.toList none
      = .ok ⟨"", [], "", none, s.toList, none, none⟩ := by
    rw [withTarget]
    exact bind_eq_ok.mpr ⟨(), hcheck, bind_eq_ok.mpr ⟨_, hencode, rfl⟩⟩
  have hshort : ¬ longest < (codes s.toList).length := by
    rw [length_codes_of_plain hall]
    exact Nat.not_lt.mpr hlength
  rw [ofText, if_neg hshort, find?_isHidden_of_plain hall]
  simp only [ofChars, hscheme, hauthority, hhash, hmark]
  exact bind_eq_ok.mpr ⟨[], rfl, bind_eq_ok.mpr ⟨"", rfl, bind_eq_ok.mpr ⟨none, rfl,
    bind_eq_ok.mpr ⟨_, hread, rfl⟩⟩⟩⟩

/-- A plain path is put after the target of the address that requests start from. -/
lemma extend_eq_retarget {s : String} (hs : Plain s.toList) (hlength : s.toList.length ≤ longest) :
    a.extend s = a.retarget (a.target ++ s.toList.tail) := by
  have hread := ofText_of_plain hs hlength
  obtain ⟨-, c, rest, hchars, hc⟩ := hs
  have htarget : (⟨"", [], "", none, s.toList, none, none⟩ : Address).target.dropWhile (· = '/')
      = s.toList.tail := by
    rw [target_of_none rfl, rootPath_of_ne_nil (by simp [hchars]), hchars]
    simp [hc]
  rw [extend, hread, ok_bind, htarget]

/-- After the slash at its start, a plain path has no steps and may stand as it is. -/
lemma Written.straight_append_plain (ha : a.Written) (hslash : a.EndsInSlash) {s : String}
    (hs : Plain s.toList) :
    (∀ c ∈ s.toList.tail, isPathChar c = true)
      ∧ (a.query = none → Straight (a.rootPath ++ s.toList.tail)) := by
  have htail : ∀ c ∈ s.toList.tail, isPlainChar c = true := fun c hc =>
    hs.1 c (List.mem_of_mem_tail hc)
  refine ⟨fun c hc => (plain_facts (htail c hc)).1, fun hnone => ?_⟩
  rw [EndsInSlash, target_of_none hnone] at hslash
  obtain ⟨before, hbefore⟩ := List.getLast?_eq_some_iff.mp hslash
  have hboth := ha.straight_rootPath
  rw [hbefore, straight_append_slash] at hboth
  rw [hbefore, List.append_assoc]
  exact straight_append_slash.mpr
    ⟨hboth.1, straight_of_plain htail⟩

/-- What fits after a target that a slash ends is itself not too long, with one character more. -/
lemma EndsInSlash.length_lt (hslash : a.EndsInSlash) (hfits : (a.append r).Fits) :
    r.length < longest := by
  cases hq : a.query with
  | none =>
      have hpath := hfits.length_path
      have hroot := List.length_pos_iff.mpr a.rootPath_ne_nil
      simp only [append, hq, List.length_append] at hpath
      omega
  | some q =>
      have hquery := hfits.length_query
      have hne : q ≠ [] := by
        rintro rfl
        rw [EndsInSlash, target_of_some hq, List.getLast?_concat] at hslash
        exact absurd hslash (by decide)
      have hpos := List.length_pos_iff.mpr hne
      simp only [append, hq, Option.getD_some, List.length_append] at hquery
      omega

/-- **Where a request goes.**  From an address that requests start from, a request for a plain path
goes to the same host, and its target is the target of the address with the path after it. -/
theorem extend_of_plain (ha : a.Written) (hslash : a.EndsInSlash) {s : String}
    (hs : Plain s.toList) (hfits : (a.append s.toList.tail).Fits) :
    a.extend s = .ok (a.append s.toList.tail) := by
  have hlength : s.toList.length ≤ longest := by
    have htail := hslash.length_lt hfits
    rw [List.length_tail] at htail
    omega
  obtain ⟨hpath, hstraight⟩ := ha.straight_append_plain hslash hs
  rw [extend_eq_retarget hs hlength, retarget_of_fits ha hpath hstraight hfits]

/-- It goes nowhere if that would be too long. -/
theorem extend_of_not_fits (ha : a.Written) (hslash : a.EndsInSlash) {s : String}
    (hs : Plain s.toList) (hfits : ¬ (a.append s.toList.tail).Fits) :
    ∃ e, a.extend s = .error e := by
  by_cases hlength : s.toList.length ≤ longest
  · rw [extend_eq_retarget hs hlength]
    exact retarget_of_not_fits ha (ha.straight_append_plain hslash hs).1 hfits
  · have hlong : longest < (codes s.toList).length := by
      rw [length_codes_of_plain hs.1]
      exact Nat.not_le.mp hlength
    exact ⟨.long, by rw [extend, ofText, if_pos hlong, error_bind]⟩

/-! ## Addresses on the web -/

/-- Is this an address for the protocol of the web, plain or encrypted? -/
def IsWeb (a : Address) : Prop := a.scheme = "http" ∨ a.scheme = "https"

instance (a : Address) : Decidable a.IsWeb := inferInstanceAs (Decidable (_ ∨ _))

lemma IsWeb.scheme_ne (h : a.IsWeb) : a.scheme ≠ "" := by
  rcases h with h | h <;> rw [h] <;> decide

lemma IsWeb.append (h : a.IsWeb) (r : List Char) : (a.append r).IsWeb := by
  rwa [IsWeb, scheme_append]

/-- The written form of an address with a scheme starts with the scheme and a colon. -/
lemma textBefore_of_scheme (h : a.scheme ≠ "") :
    ∃ rest, a.textBefore.toList = a.scheme.toList ++ ':' :: rest := by
  have hcolon : ":".toList = [':'] := rfl
  rw [textBefore, if_neg h]
  simp only [String.toList_append, List.append_assoc, hcolon, List.singleton_append]
  exact ⟨_, rfl⟩

/-- An address on the web tells how to get there. -/
lemma untold?_of_isWeb (h : a.IsWeb) : a.untold? = none := by
  obtain ⟨rest, htext⟩ := textBefore_of_scheme h.scheme_ne
  have hname : a.scheme.toList ≠ [] ∧ ∀ c ∈ a.scheme.toList, (c ≠ '/' && c ≠ ':') = true := by
    rcases h with h | h <;> rw [h] <;> exact ⟨by decide, List.all_eq_true.mp (by decide)⟩
  obtain ⟨hne, hname⟩ := hname
  obtain ⟨c, name, hscheme⟩ := List.exists_cons_of_ne_nil hne
  rw [hscheme] at hname htext
  have hall : ∀ more : List Char,
      ((c :: name ++ ':' :: rest) ++ more).takeWhile (fun c => c ≠ '/' && c ≠ ':') = c :: name
      ∧ ((c :: name ++ ':' :: rest) ++ more).dropWhile (fun c => c ≠ '/' && c ≠ ':')
        = ':' :: (rest ++ more) := by
    intro more
    rw [List.append_assoc, List.takeWhile_append_of_pos hname, List.dropWhile_append_of_pos hname]
    simp
  rw [untold?, htext]
  cases a.fragment with
  | none =>
      have hnone := hall []
      rw [List.append_nil] at hnone
      simp only [hnone]
  | some f => simp only [hall]

end Address

/-! ## The paths of requests -/

lemma isPlainChar_of_mem_toString (n : Int) : ∀ c ∈ (toString n).toList, Address.isPlainChar c := by
  have hnat : ∀ m : Nat, ∀ c ∈ (Nat.repr m).toList, Address.isPlainChar c := by
    intro m c hc
    rw [Nat.repr, String.toList_ofList] at hc
    have hdigit : c.isDigit = true := Nat.isDigit_of_mem_toDigits (by omega) (by omega) hc
    simp [Address.isPlainChar, Char.isAlphanum, hdigit]
  cases n with
  | ofNat m => exact hnat m
  | negSucc m =>
      intro c hc
      rw [show toString (Int.negSucc m) = "-" ++ Nat.repr (m + 1) from rfl, String.toList_append,
        List.mem_append] at hc
      rcases hc with hc | hc
      · have hall : ∀ d ∈ "-".toList, Address.isPlainChar d := List.all_eq_true.mp (by decide)
        exact hall c hc
      · exact hnat (m + 1) c hc

/-- Different numbers are written differently: the digits tell the number, and no minus is a digit. -/
lemma toString_inj {m n : Int} : toString m = toString n ↔ m = n := by
  have hnat : ∀ a b : Nat, Nat.repr a = Nat.repr b → a = b := by
    intro a b h
    have hvalue := congrArg (fun s : String => Nat.ofDigitChars 10 s.toList 0) h
    simpa only [Nat.repr, String.toList_ofList, Nat.ofDigitChars_ten_toDigits] using hvalue
  have hminus : ∀ a b : Nat, Nat.repr a ≠ "-" ++ Nat.repr b := by
    intro a b h
    have hmem : '-' ∈ (Nat.repr a).toList := by
      rw [h, String.toList_append]
      exact List.mem_append_left _ (List.mem_singleton_self '-')
    rw [Nat.repr, String.toList_ofList] at hmem
    exact absurd (Nat.isDigit_of_mem_toDigits (by omega) (by omega) hmem) (by decide)
  refine ⟨fun h => ?_, fun h => congrArg toString h⟩
  cases m with
  | ofNat a =>
      cases n with
      | ofNat b => exact congrArg Int.ofNat (hnat a b h)
      | negSucc b => exact absurd h (hminus a (b + 1))
  | negSucc a =>
      cases n with
      | ofNat b => exact absurd h.symm (hminus b (a + 1))
      | negSucc b =>
          have hsucc := hnat _ _ ((String.append_right_inj "-").mp h)
          rw [Nat.succ.inj hsucc]

lemma plain_dashboardPath (n : Int) : Address.Plain (dashboardPath (.int n)).toList := by
  have hfront : ∀ c ∈ "/api/dashboard/".toList, Address.isPlainChar c :=
    List.all_eq_true.mp (by decide)
  rw [dashboardPath, String.toList_append]
  exact ⟨List.forall_mem_append.mpr ⟨hfront, isPlainChar_of_mem_toString n⟩,
    'a', _, rfl, by decide⟩

lemma plain_tablePath (n : Int) : Address.Plain (tablePath (.int n)).toList := by
  have hfront : ∀ c ∈ "/api/table/".toList, Address.isPlainChar c :=
    List.all_eq_true.mp (by decide)
  have hback : ∀ c ∈ "/query_metadata".toList, Address.isPlainChar c :=
    List.all_eq_true.mp (by decide)
  rw [tablePath, String.toList_append, String.toList_append]
  exact ⟨List.forall_mem_append.mpr ⟨List.forall_mem_append.mpr
    ⟨hfront, isPlainChar_of_mem_toString n⟩, hback⟩, 'a', _, rfl, by decide⟩

/-! ## Connections to the web -/

variable {e : Endpoint} {k : Connection} {a : Address}

lemma Endpoint.exists_text_of_address {v : Yaml} (h : address v = .ok a) :
    ∃ s, Address.ofText s = .ok a := by
  unfold address at h
  split at h
  · exact ⟨_, h⟩
  · cases h

/-- A connection to the web starts from an address in its written form, which a slash ends. -/
lemma Endpoint.written_of_connect (h : e.connect = .ok k) (hweb : k.base.IsWeb) :
    k.base.Written ∧ k.base.EndsInSlash := by
  rw [connect] at h
  split_ifs at h
  obtain ⟨base, hbase, h⟩ := bind_eq_ok.mp h
  obtain ⟨key, -, h⟩ := bind_eq_ok.mp h
  obtain rfl := Except.ok.inj h
  obtain ⟨a, ha, hbase⟩ := bind_eq_ok.mp (mapError_eq_ok.mp hbase)
  obtain ⟨s, hs⟩ := exists_text_of_address ha
  have hscheme : a.scheme ≠ "" := Address.scheme_of_base hbase ▸ hweb.scheme_ne
  exact Address.written_of_base (Address.written_of_ofText hs hscheme) hbase

/-- Is there room for a path after the target of the connection? -/
def Connection.Fits (k : Connection) (path : String) : Prop := (k.base.append path.toList.tail).Fits

instance (k : Connection) (path : String) : Decidable (k.Fits path) :=
  inferInstanceAs (Decidable (Address.Fits _))

/-- **A request for a plain path** over a connection to the web goes to the host of the connection,
and its target is that of the connection with the path after it. -/
theorem Connection.address_of_plain (h : e.connect = .ok k) (hweb : k.base.IsWeb) {path : String}
    (hplain : Address.Plain path.toList) (hfits : k.Fits path) :
    k.address path = .ok (k.base.append path.toList.tail) := by
  obtain ⟨hwritten, hslash⟩ := Endpoint.written_of_connect h hweb
  exact Address.extend_of_plain hwritten hslash hplain hfits

/-- Without room for the path there is no request. -/
theorem Connection.address_of_not_fits (h : e.connect = .ok k) (hweb : k.base.IsWeb)
    {path : String} (hplain : Address.Plain path.toList) (hfits : ¬ k.Fits path) :
    ∃ e, k.address path = .error e := by
  obtain ⟨hwritten, hslash⟩ := Endpoint.written_of_connect h hweb
  exact Address.extend_of_not_fits hwritten hslash hplain hfits

/-- Every such request goes to the web. -/
lemma Connection.isWeb_of_address (h : e.connect = .ok k) (hweb : k.base.IsWeb) {path : String}
    (hplain : Address.Plain path.toList) (ha : k.address path = .ok a) : a.IsWeb := by
  by_cases hfits : k.Fits path
  · rw [address_of_plain h hweb hplain hfits] at ha
    exact Except.ok.inj ha ▸ hweb.append _
  · obtain ⟨e, he⟩ := address_of_not_fits h hweb hplain hfits
    cases he.symm.trans ha

/-! ## What comes back -/

namespace Response

/-- What of a response from the web reaches the one who asked: the response with its body unpacked,
or why there is none. -/
def reaching (unpack : Unpacker) (a : Address) (r : Response) : Reply :=
  match r.unpacked unpack, r.onwardFault a with
  | .response _, .ok (some e) => .noAddress e
  | reply, _ => reply

variable {unpack : Unpacker} {r : Response}

/-- A response from the web reaches the one who asked, unless it sends on to a place that does not go
with the address. -/
lemma received_of_isWeb (hweb : a.IsWeb) (h : ∀ e, r.onwardFault a ≠ .error e) :
    r.received unpack a = .ok (r.reaching unpack a) := by
  rw [received, reaching]
  cases r.unpacked unpack with
  | broken reason => rfl
  | response content =>
      cases hfault : r.onwardFault a with
      | error e => exact absurd hfault (h e)
      | ok o =>
          simp only [Address.untold?_of_isWeb hweb]
          cases o <;> rfl

/-- Such a place is told as it is, and not as a failure on the way. -/
lemma received_of_onwardFault (hweb : a.IsWeb) {content : Response} {e : AddressError}
    (hcontent : r.unpacked unpack = .response content) (hfault : r.onwardFault a = .error e) :
    r.received unpack a = .error e := by
  simp only [received, hcontent, Address.untold?_of_isWeb hweb, hfault]
  rfl

/-- A body that is not packed is as it came. -/
lemma unpacked_of_codings (h : r.codings = []) : r.unpacked unpack = .response r := by
  rw [unpacked, h]

/-- A response that sends nobody on comes with its body unpacked, and nothing else is different. -/
lemma reaching_of_stays (h : r.onwardFault a = .ok none) :
    r.reaching unpack a = r.unpacked unpack := by
  rw [reaching, h]
  cases r.unpacked unpack <;> rfl

/-- Only responses with some statuses send on. -/
lemma stays_of_status (h : [301, 302, 303, 307, 308].contains r.status = false) :
    r.onwardFault a = .ok none := by
  rw [onwardFault, location?, h]

end Response

namespace Reply

/-- What of a reply from the web reaches the one who asked at an address. -/
def reaching (unpack : Unpacker) (a : Address) : Reply → Reply
  | .broken reason => .broken reason
  | .response r => r.reaching unpack a

variable {unpack : Unpacker}

/-- **A reply from the web** reaches the one who asked, unless it sends on to a place that does not
go with the address. -/
theorem received_of_isWeb (hweb : a.IsWeb) {reply : Reply}
    (h : ∀ r e, reply = .response r → r.onwardFault a ≠ .error e) :
    reply.received unpack a = .ok (reply.reaching unpack a) := by
  cases reply with
  | broken reason => rfl
  | response r => exact Response.received_of_isWeb hweb fun e => h r e rfl

/-- A response that sends nobody on always reaches the one who asked, with its body unpacked. -/
lemma reaching_of_stays {reply : Reply} {r : Response} (hreply : reply = .response r)
    (hstay : r.onwardFault a = .ok none) :
    (∀ r e, reply = .response r → r.onwardFault a ≠ .error e)
      ∧ reply.reaching unpack a = r.unpacked unpack := by
  subst hreply
  refine ⟨?_, Response.reaching_of_stays hstay⟩
  rintro _ e ⟨⟩ he
  cases hstay.symm.trans he

end Reply

end DashboardSurvey
