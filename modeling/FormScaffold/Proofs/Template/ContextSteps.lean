import FormScaffold.Proofs.Template.ExprSoundness

/-!
# How a context goes on

What a state is after a test that holds, an assignment, and at the start of a round of a loop: it
meets the context with what the test tells, with the assigned name, and with the names of the loop.
-/

namespace FormScaffold.Template

open FormScaffold FormScaffold.Json

/-! ## How a state changes -/

/-- No loop is being left or skips a round. -/
def RenderState.Runs (s : RenderState) : Prop :=
  ∃ top rest, s.frames = top :: rest ∧ top.isInterrupted = false

/-- A state with other assignments in its topmost frame, and the same otherwise. -/
def RenderState.withAssigned (s : RenderState) (assigned : Keyed Value) : RenderState :=
  { s with frames := match s.frames with
    | top :: rest => { top with assigned := assigned } :: rest
    | [] => [] }

namespace RenderState

variable {s s' : RenderState} {assigned : Keyed Value}

theorem Runs.withAssigned (h : s.Runs) (assigned : Keyed Value) :
    (s.withAssigned assigned).Runs := by
  obtain ⟨top, rest, hframes, htop⟩ := h
  exact ⟨{ top with assigned := assigned }, rest, by simp [RenderState.withAssigned, hframes], htop⟩

theorem withAssigned_twice (s : RenderState) (one other : Keyed Value) :
    (s.withAssigned one).withAssigned other = s.withAssigned other := by
  unfold withAssigned
  cases s.frames <;> rfl

/-- A state has assignments already. -/
theorem exists_withAssigned (s : RenderState) : ∃ assigned, s.withAssigned assigned = s := by
  obtain ⟨frames, blocks, macros, escaping⟩ := s
  cases frames with
  | nil => exact ⟨[], rfl⟩
  | cons top rest => exact ⟨top.assigned, rfl⟩

theorem topIs_isInterrupted (h : s.Runs) : topIs Frame.isInterrupted s = (.ok false, s) := by
  obtain ⟨top, rest, hframes, htop⟩ := h
  unfold topIs
  rw [bind_ok (show (get : Run RenderState) s = (.ok s, s) from rfl)]
  simp [hframes, htop]
  rfl

end RenderState

/-! ## What rendering leads to -/

/-- What is so after a step in a context: paths were added that the context did not have, the
state meets the context with them, and only the topmost frame has other assignments. -/
structure Context.Leads (c : Context) (given : Keyed Value) (xs : List (String × Shape))
    (s s' : RenderState) (b : Bindings) : Prop where
  fresh : ∀ {p t}, xs.lookup p = some t → c.shape? p = none
  meets : (c.adding xs).Meets given s' b
  change : ∃ assigned, s' = s.withAssigned assigned

namespace Context

variable {c : Context} {given : Keyed Value} {xs ys : List (String × Shape)}
  {s s' s'' : RenderState} {b b' : Bindings}

theorem shape?_adding (c : Context) (xs : List (String × Shape)) (p : String) :
    (c.adding xs).shape? p = (xs.lookup p).or (c.shape? p) := by
  simp [shape?, adding, List.lookup_append]

theorem Leads.refl (h : c.Meets given s b) : c.Leads given [] s s b where
  fresh := fun h => nomatch h
  meets := h
  change := let ⟨assigned, h⟩ := s.exists_withAssigned; ⟨assigned, h.symm⟩

theorem Leads.trans (h : c.Leads given xs s s' b)
    (h' : (c.adding xs).Leads given ys s' s'' b') : c.Leads given (ys ++ xs) s s'' b' where
  fresh := by
    intro p t hp
    rw [List.lookup_append] at hp
    cases hy : ys.lookup p with
    | none => exact h.fresh (by simpa [hy] using hp)
    | some u =>
        have hnone := h'.fresh hy
        rw [shape?_adding, Option.or_eq_none_iff] at hnone
        exact hnone.2
  meets := by
    have hsame : (c.adding xs).adding ys = c.adding (ys ++ xs) := by simp [adding]
    exact hsame ▸ h'.meets
  change := by
    obtain ⟨one, rfl⟩ := h.change
    obtain ⟨other, rfl⟩ := h'.change
    exact ⟨other, by rw [RenderState.withAssigned_twice]⟩

theorem Leads.runs (h : c.Leads given xs s s' b) (hs : s.Runs) : s'.Runs := by
  obtain ⟨assigned, rfl⟩ := h.change
  exact hs.withAssigned assigned

/-- Fewer paths may be told to be added. -/
theorem Leads.of_lookup (h : c.Leads given xs s s' b)
    (hys : ∀ {p t}, ys.lookup p = some t → xs.lookup p = some t) :
    c.Leads given ys s s' b := by
  -- A path of the context was not added, so it has its shape with or without the additions.
  have hshape : ∀ {p t}, (c.adding ys).shape? p = some t → (c.adding xs).shape? p = some t := by
    intro p t hp
    rw [shape?_adding] at hp ⊢
    cases hy : ys.lookup p with
    | some u =>
        rw [hys hy]
        simpa [hy] using hp
    | none =>
        have hc : c.shape? p = some t := by simpa [hy] using hp
        cases hx : xs.lookup p with
        | none => simpa using hc
        | some u =>
            rw [h.fresh hx] at hc
            cases hc
  exact ⟨fun hp => h.fresh (hys hp), ⟨fun hp => h.meets.path (hshape hp),
    fun hp => h.meets.holds (hshape hp), fun hp => h.meets.found (hshape hp), h.meets.quiet⟩,
    h.change⟩

theorem lookup_filter {q : String × Shape → Bool} {p : String} {t : Shape}
    (h : (xs.filter q).lookup p = some t) : q (p, t) = true := by
  obtain ⟨before, after, hsplit, -⟩ := List.lookup_eq_some_iff.mp h
  have hmem : (p, t) ∈ xs.filter q := by simp [hsplit]
  exact (List.mem_filter.mp hmem).2

theorem lookup_sharedEntries {p : String} {t : Shape}
    (h : (sharedEntries xs ys).lookup p = some t) :
    xs.lookup p = some t ∧ ys.lookup p = some t := by
  simpa using lookup_filter h

/-! ### Tests -/

theorem shape?_adding_one (c : Context) (p : String) (u : Shape) (q : String) :
    (c.adding [(p, u)]).shape? q = if q = p then some u else c.shape? q := by
  rw [shape?_adding]
  by_cases hq : q = p
  · simp [hq]
  · have hne : (q == p) = false := by simpa using hq
    simp [List.lookup_cons, hq, hne]

theorem heads_supposing (c : Context) (e : Expr) : (c.supposing e).heads = c.heads := by
  unfold supposing
  split
  next path => cases c.shape? path <;> rfl
  next => rfl

/-- A test changes no more than what is known of the name that it asks for. -/
theorem shape?_supposing (c : Context) (e : Expr) (q : String) :
    (c.supposing e).shape? q = c.shape? q ∨
      ∃ t, e = .mk (.name q) false [] ∧ c.shape? q = some t ∧
        (c.supposing e).shape? q = some t.present := by
  unfold supposing
  split
  next path =>
    cases hpath : c.shape? path with
    | none => exact Or.inl rfl
    | some t =>
        simp only [shape?_adding_one]
        by_cases hq : q = path
        · subst q
          exact Or.inr ⟨t, rfl, hpath, by simp⟩
        · exact Or.inl (by simp [hq])
  next => exact Or.inl rfl

/-- A test that holds tells that its name has a value. -/
theorem Meets.supposing {e : Expr} (h : c.Meets given s b) (he : e.holds b = true) :
    (c.supposing e).Meets given s b := by
  have hall : ∀ {q u}, (c.supposing e).shape? q = some u →
      ∃ t, c.shape? q = some t ∧ u.Holds (b.get q) := by
    intro q u hq
    rcases shape?_supposing c e q with hsame | ⟨t, rfl, ht, hpresent⟩
    · rw [hsame] at hq
      exact ⟨u, hq, h.holds hq⟩
    · rw [hpresent] at hq
      cases hq
      exact ⟨t, ht, (h.holds ht).present he⟩
  refine ⟨fun hq => ?_, fun hq => ?_, fun hq => ?_, h.quiet⟩
  · obtain ⟨t, ht, _⟩ := hall hq
    rw [heads_supposing]
    exact h.path ht
  · obtain ⟨t, _, hu⟩ := hall hq
    exact hu
  · obtain ⟨t, ht, _⟩ := hall hq
    exact h.found ht

/-- After a body that was used because a test held, the state meets the context without what
the test told. -/
theorem Leads.of_supposing {e : Expr} (h : (c.supposing e).Leads given xs s s' b) :
    c.Leads given xs s s' b := by
  have hall : ∀ {q t}, (c.adding xs).shape? q = some t →
      ∃ u, ((c.supposing e).adding xs).shape? q = some u ∧
        ∀ v, u.Holds v → t.Holds v := by
    intro q t hq
    rw [shape?_adding] at hq ⊢
    cases hx : xs.lookup q with
    | some u =>
        obtain rfl : u = t := by simpa [hx] using hq
        exact ⟨u, by simp, fun _ hv => hv⟩
    | none =>
        have hc : c.shape? q = some t := by simpa [hx] using hq
        rcases shape?_supposing c e q with hsame | ⟨t', _, ht, hpresent⟩
        · exact ⟨t, by simpa [hsame] using hc, fun _ hv => hv⟩
        · obtain rfl : t' = t := Option.some.inj (ht.symm.trans hc)
          exact ⟨t'.present, by simpa using hpresent, fun _ hv => hv.of_present⟩
  refine ⟨fun {q t} hq => ?_, ⟨fun hq => ?_, fun hq => ?_, fun hq => ?_, h.meets.quiet⟩, h.change⟩
  · have hnone := h.fresh hq
    rcases shape?_supposing c e q with hsame | ⟨t', _, _, hpresent⟩
    · rwa [hsame] at hnone
    · rw [hpresent] at hnone
      cases hnone
  · obtain ⟨u, hu, _⟩ := hall hq
    exact heads_supposing c e ▸ h.meets.path hu
  · obtain ⟨u, hu, hholds⟩ := hall hq
    exact hholds _ (h.meets.holds hu)
  · obtain ⟨u, hu, _⟩ := hall hq
    exact h.meets.found hu

/-! ### Assignments -/

theorem isFree_iff {name : String} : c.isFree name = true ↔
    isPlainName name = true ∧ name ∉ c.heads ∧ c.shape? name = none := by
  simp [isFree, and_assoc]

theorem get_cons (p q : String) (v : Value) :
    Bindings.get ((p, v) :: b) q = if q = p then v else b.get q := by
  by_cases hq : q = p
  · simp [Bindings.get, hq]
  · have hne : (q == p) = false := by simpa using hq
    simp [Bindings.get, List.lookup_cons, hq, hne]

/-- A free name can be assigned. -/
theorem Meets.assign {key : String} {t : Shape} {v : Value} (h : c.Meets given s b)
    (hs : s.Runs) (hfree : c.isFree key = true) (hv : t.Holds v) :
    ∃ s', assign key false v s = (.ok (), s') ∧
      c.Leads given [(key, t)] s s' ((key, v) :: b) := by
  obtain ⟨hplain, hheads, hnew⟩ := isFree_iff.mp hfree
  obtain ⟨top, rest, hframes, _⟩ := hs
  have hstate : { s with frames := top.assign key v :: rest } =
      s.withAssigned (Keyed.insert key v top.assigned) := by
    simp [RenderState.withAssigned, hframes, Frame.assign]
  refine ⟨{ s with frames := top.assign key v :: rest }, ?_, ?_, ?_, ⟨_, hstate⟩⟩
  · change ((.ok (), { s with frames := _ }) : Except Fault Unit × RenderState) = _
    simp [hframes]
  · intro p u hp
    have hkey : p = key := by
      by_contra hne
      have hne : (p == key) = false := by simpa using hne
      simp [List.lookup_cons, hne] at hp
    rw [hkey]
    exact hnew
  · refine ⟨fun {p u} hp => ?_, fun {p u} hp => ?_, fun {p u} hp => ?_, h.quiet⟩ <;>
      rw [shape?_adding_one] at hp <;>
      split at hp
    · subst p
      exact .name hplain
    · exact h.path hp
    · subst p
      cases hp
      rw [get_cons, if_pos rfl]
      exact hv
    next hne =>
      rw [get_cons, if_neg hne]
      exact h.holds hp
    · subst p
      rw [get_cons, if_pos rfl]
      exact findIn?_assigned hplain given v top rest
    next hne =>
      rw [get_cons, if_neg hne, findIn?_assign hplain hheads (h.path hp) hne, ← hframes]
      exact h.found hp

/-! ### Rounds -/

theorem admits_iff {key : Option String} {value : String} : c.admits key value = true ↔
    c.isFree value = true ∧ ∀ k, key = some k → c.isFree k = true ∧ k ≠ value := by
  cases key <;> simp [admits]

section Rounds

variable {key : Option String} {value template : String} {items : List (String × Value)}
  {n : Nat} {item : String × Value} {t : Shape}

theorem get_append_of_not_mem {bs : Bindings} {p : String} (h : p ∉ bs.map Prod.fst) :
    Bindings.get (bs ++ b) p = b.get p := by
  have hnone : bs.lookup p = none := by
    rw [List.lookup_eq_none_iff]
    intro q hq
    have hne : p ≠ q.1 := fun heq => h (heq ▸ List.mem_map_of_mem hq)
    simpa using hne
  simp [Bindings.get, List.lookup_append, hnone]

theorem splitHead_progress_names :
    splitHead "loop.index".toList = ("loop".toList, some "index".toList) ∧
    splitHead "loop.index0".toList = ("loop".toList, some "index0".toList) ∧
    splitHead "loop.first".toList = ("loop".toList, some "first".toList) ∧
    splitHead "loop.last".toList = ("loop".toList, some "last".toList) := by
  decide

theorem mem_progress {p : String} (h : p ∈ progress.map Prod.fst) :
    p = "loop.index" ∨ p = "loop.index0" ∨ p = "loop.first" ∨ p = "loop.last" := by
  simpa [progress] using h

theorem find?_progress {p : String} (hp : p ∈ progress.map Prod.fst) :
    (LoopState.mk key value items n .running).find? p.toList =
      some ((progressBindings n (n + 1 == items.length)).get p) := by
  obtain ⟨hindex, hindex0, hfirst, hlast⟩ := splitHead_progress_names
  rcases mem_progress hp with rfl | rfl | rfl | rfl
  · unfold LoopState.find?
    rw [hindex]
    simp [LoopState.progress?, progressBindings, Bindings.get]
  · unfold LoopState.find?
    rw [hindex0]
    simp [LoopState.progress?, progressBindings, Bindings.get, List.lookup_cons]
  · unfold LoopState.find?
    rw [hfirst]
    simp [LoopState.progress?, progressBindings, Bindings.get, List.lookup_cons]
  · unfold LoopState.find?
    rw [hlast]
    simp [LoopState.progress?, progressBindings, Bindings.get, List.lookup_cons]

theorem holds_progress {p : String} {t : Shape} {isLast : Bool} (hp : (p, t) ∈ progress) :
    t.Holds ((progressBindings n isLast).get p) := by
  simp only [progress, List.mem_cons, Prod.mk.injEq, List.not_mem_nil, or_false] at hp
  rcases hp with ⟨rfl, rfl⟩ | ⟨rfl, rfl⟩ | ⟨rfl, rfl⟩ | ⟨rfl, rfl⟩
  · exact ⟨_, rfl⟩
  · exact ⟨_, rfl⟩
  · exact ⟨_, rfl⟩
  · exact ⟨_, rfl⟩

theorem not_mem_progress {p : String}
    (hhead : (splitHead p.toList).2 = none ∨ (splitHead p.toList).1 ≠ "loop".toList) :
    p ∉ progress.map Prod.fst := by
  intro hmem
  obtain ⟨hloop, hsome⟩ := splitHead_progress hmem
  rcases hhead with h | h
  · rw [h] at hsome
    cases hsome
  · exact h hloop

theorem not_mem_memberBindings {name p : String} (hname : isPlainName name = true)
    (hp : (splitHead p.toList).2 = none ∨ (splitHead p.toList).1 ≠ name.toList) (v : Value) :
    p ∉ (memberBindings name v).map Prod.fst := by
  intro hmem
  cases v with
  | object members =>
      obtain ⟨q, hq, rfl⟩ := List.mem_map.mp hmem
      obtain ⟨m, _, rfl⟩ := List.mem_map.mp hq
      rw [splitHead_member hname] at hp
      simp at hp
  | _ => cases hmem

theorem lookup_memberBindings (name key : String) (v : Value) :
    (memberBindings name v).lookup (name ++ "." ++ key) = v.member? key := by
  cases v with
  | object members =>
      change (members.map fun m => (name ++ "." ++ m.1, m.2)).lookup (name ++ "." ++ key) =
        Keyed.get? key members
      induction members with
      | nil => rfl
      | cons m rest ih =>
          obtain ⟨k, u⟩ := m
          rw [List.map_cons, List.lookup_cons, ih]
          by_cases h : key = k
          · simp [Keyed.get?, h]
          · have hne : (name ++ "." ++ key == name ++ "." ++ k) = false := by simpa using h
            simp [Keyed.get?, h, hne]
  | _ => rfl

/-- What a path of a loop's round is: progress, the value, one of its members, the key, or a path
from outside. -/
theorem shape?_round {p : String} {u : Shape} (h : (c.round key value t).shape? p = some u) :
    (p, u) ∈ progress ∨ (p = value ∧ u = t) ∨
      (∃ m ∈ t.members, p = value ++ "." ++ m.1.text ∧ u = m.2) ∨ (key = some p ∧ u = .text) ∨
      (c.shape? p = some u ∧ p ∉ progress.map Prod.fst ∧ p ≠ value ∧ key ≠ some p) := by
  rw [show (c.round key value t).shape? p = (c.adding (bound key value t)).shape? p from rfl,
    shape?_adding] at h
  cases hbound : (bound key value t).lookup p with
  | some u' =>
      obtain rfl : u' = u := by simpa [hbound] using h
      have hmem : (p, u') ∈ bound key value t := by
        obtain ⟨before, after, hsplit, -⟩ := List.lookup_eq_some_iff.mp hbound
        simp [hsplit]
      cases key with
      | none =>
          simp only [bound, List.append_nil, List.mem_append, List.mem_cons, List.mem_map,
            Prod.mk.injEq] at hmem
          grind
      | some k =>
          simp only [bound, List.mem_append, List.mem_cons, List.mem_map, Prod.mk.injEq,
            List.not_mem_nil, or_false] at hmem
          grind
  | none =>
      have hc : c.shape? p = some u := by simpa [hbound] using h
      have hnot : ∀ u', (p, u') ∉ bound key value t := by
        intro u' hmem
        have := List.lookup_eq_none_iff.mp hbound _ hmem
        simp at this
      refine Or.inr (Or.inr (Or.inr (Or.inr ⟨hc, fun hmem => ?_, fun heq => ?_, fun heq => ?_⟩)))
      · obtain ⟨⟨q, u'⟩, hq, rfl⟩ := List.mem_map.mp hmem
        exact hnot u' (by simp [bound, hq])
      · exact hnot t (by simp [bound, heq])
      · exact hnot .text (by simp [bound, heq])

theorem get_append_of_mem {bs : Bindings} {p : String} (h : p ∈ bs.map Prod.fst) :
    Bindings.get (bs ++ b) p = bs.get p := by
  cases hlookup : bs.lookup p with
  | some v => simp [Bindings.get, List.lookup_append, hlookup]
  | none =>
      obtain ⟨q, hq, rfl⟩ := List.mem_map.mp h
      have := List.lookup_eq_none_iff.mp hlookup q hq
      simp at this

/-- What a round binds besides its progress. -/
theorem get_round {p : String} {isLast : Bool} (hp : p ∉ progress.map Prod.fst) :
    Bindings.get (roundBindings key value n isLast item ++ b) p =
      if p = value then item.2
      else Bindings.get (memberBindings value item.2 ++ ((match key with
        | some k => [(k, .string item.1)]
        | none => []) ++ b)) p := by
  unfold roundBindings
  rw [List.append_assoc, List.append_assoc, get_append_of_not_mem (by exact hp), List.cons_append]
  exact get_cons _ _ _

theorem get_round_member {k : String} {v : Value} {isLast : Bool}
    (hvalue : isPlainName value = true) (hmember : item.2.member? k = some v) :
    Bindings.get (roundBindings key value n isLast item ++ b) (value ++ "." ++ k) = v := by
  have hloop : value.toList ≠ "loop".toList := fun heq =>
    (ne_of_isPlainName hvalue).2.1 (String.toList_injective heq)
  have hmem : value ++ "." ++ k ∉ progress.map Prod.fst :=
    not_mem_progress (Or.inr (by rw [splitHead_member hvalue]; exact hloop))
  have hne : value ++ "." ++ k ≠ value := by
    intro heq
    have hlength := congrArg String.length heq
    simp only [String.length_append] at hlength
    have hpoint : ".".length = 1 := rfl
    omega
  rw [get_round hmem, if_neg hne]
  simp [Bindings.get, List.lookup_append, lookup_memberBindings, hmember]

theorem get_round_progress {p : String} {isLast : Bool} (hp : p ∈ progress.map Prod.fst) :
    Bindings.get (roundBindings key value n isLast item ++ b) p =
      (progressBindings n isLast).get p := by
  unfold roundBindings
  rw [List.append_assoc, List.append_assoc, get_append_of_mem (by exact hp)]

theorem get_round_key {p : String} {isLast : Bool} (hp : p ∉ progress.map Prod.fst)
    (hne : p ≠ value) (hmember : p ∉ (memberBindings value item.2).map Prod.fst) :
    Bindings.get (roundBindings key value n isLast item ++ b) p =
      if key = some p then .string item.1 else b.get p := by
  rw [get_round hp, if_neg hne, get_append_of_not_mem hmember]
  cases key with
  | none => simp
  | some k =>
      rw [List.singleton_append, get_cons]
      by_cases h : p = k
      · simp [h]
      · have : k ≠ p := fun heq => h heq.symm
        simp [h, this]

variable (template) in
/-- In a round a state meets the context of the round. -/
theorem Meets.round (h : c.Meets given s b) (hadmits : c.admits key value = true)
    (hitem : items[n]? = some item) (ht : t.Holds item.2) :
    (c.round key value t).Meets given
      { s with frames := roundFrame template key value items n :: s.frames }
      (roundBindings key value n (n + 1 == items.length) item ++ b) := by
  obtain ⟨hfree, hkeys⟩ := admits_iff.mp hadmits
  obtain ⟨hvalue, hheads, hnew⟩ := isFree_iff.mp hfree
  have hall : ∀ {p u}, (c.round key value t).shape? p = some u →
      PathIn (value :: c.heads) p ∧
      u.Holds (Bindings.get (roundBindings key value n (n + 1 == items.length) item ++ b) p) ∧
      findIn? given p.toList (roundFrame template key value items n :: s.frames) =
        some (Bindings.get (roundBindings key value n (n + 1 == items.length) item ++ b) p) := by
    intro p u hp
    rw [findIn?_roundFrame]
    rcases shape?_round hp with hprogress | ⟨rfl, rfl⟩ | ⟨m, hm, rfl, rfl⟩ | ⟨rfl, rfl⟩ |
      ⟨hc, hprogress, hne, hkey⟩
    · have hmem : p ∈ progress.map Prod.fst := List.mem_map_of_mem hprogress
      rw [get_round_progress hmem, find?_progress hmem]
      exact ⟨.progress hmem, holds_progress hprogress, rfl⟩
    · have hmem := not_mem_progress (Or.inl (congrArg Prod.snd (splitHead_name hvalue)))
      rw [get_round hmem, if_pos rfl, find?_value hvalue hitem]
      exact ⟨.name hvalue, ht, rfl⟩
    · obtain ⟨v, hmember, hv⟩ := ht.member hm
      have hget : Bindings.get (roundBindings key value n (n + 1 == items.length) item ++ b)
          (value ++ "." ++ m.1.text) = v := get_round_member hvalue hmember
      rw [hget, find?_member hvalue hitem m.1.plain hmember]
      exact ⟨.member List.mem_cons_self hvalue m.1.plain, hv, rfl⟩
    · obtain ⟨hkfree, hkne⟩ := hkeys p rfl
      obtain ⟨hk, _, _⟩ := isFree_iff.mp hkfree
      have hname := congrArg Prod.snd (splitHead_name hk)
      rw [get_round_key (not_mem_progress (Or.inl hname)) hkne
        (not_mem_memberBindings hvalue (Or.inl hname) item.2), if_pos rfl,
        find?_key hk hkne hitem]
      exact ⟨.name hk, ⟨_, rfl⟩, rfl⟩
    · have hpath := h.path hc
      have hmembers : p ∉ (memberBindings value item.2).map Prod.fst := by
        apply not_mem_memberBindings hvalue
        cases hpath with
        | name hname => exact Or.inl (congrArg Prod.snd (splitHead_name hname))
        | @member m k hm hname _ =>
            refine Or.inr ?_
            rw [splitHead_member hname]
            exact fun heq => hheads (String.toList_injective heq ▸ hm)
        | progress hmem => exact absurd hmem hprogress
      rw [get_round_key hprogress hne hmembers, if_neg hkey,
        find?_other hpath hprogress hne hheads hkey, Option.none_or, h.found hc]
      exact ⟨hpath.of_subset (List.subset_cons_self _ _), h.holds hc, rfl⟩
  exact ⟨fun hp => (hall hp).1, fun hp => (hall hp).2.1, fun hp => (hall hp).2.2, h.quiet⟩

end Rounds

end Context

end FormScaffold.Template
