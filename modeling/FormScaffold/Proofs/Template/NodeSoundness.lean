import FormScaffold.Proofs.Template.ContextSteps

/-!
# Templates that fit do not fail

Nodes that fit a context of shapes render to their plain text, from every state that meets the
context and in which no loop is being left.  Afterwards the state meets the context together with
what the nodes are certain to assign, and only the topmost frame has changed, by what was assigned
in it.  For a whole template this gives a rendering that succeeds whatever the given values are.
-/

namespace FormScaffold.Template

open FormScaffold FormScaffold.Json

/-! ## Loops -/

section Loops

variable {c : Context} {given : Keyed Value} {s : RenderState} {b : Bindings}
  {key : Option String} {value template : String} {items : List (String × Value)} {t : Shape}
  {body : Run String} {one : Bindings → String}

theorem openFrame_ok (f : Frame) (s : RenderState) :
    openFrame f s = (.ok (), { s with frames := f :: s.frames }) := rfl

theorem closeFrame_ok (f : Frame) (s : RenderState) :
    closeFrame { s with frames := f :: s.frames } = (.ok (), s) := rfl

variable (template) in
/-- The rounds of a loop from one of them on, for a body that does not fail in a round. -/
theorem rounds_ok (hc : c.Meets given s b) (hadmits : c.admits key value = true)
    (hitems : ∀ item ∈ items, t.Holds item.2)
    (hbody : ∀ {s' b'}, (c.round key value t).Meets given s' b' → s'.Runs →
      ∃ assigned, body s' = (.ok (one b'), s'.withAssigned assigned))
    (rest : List (String × Value)) (n : Nat) (hrest : items.drop n = rest) (text : String) :
    ∃ top, rounds body rest.length text
        { s with frames := roundFrame template key value items n :: s.frames } =
      (.ok (text ++ plainRounds one key value b n rest), { s with frames := top :: s.frames }) := by
  induction rest generalizing n text with
  | nil => exact ⟨_, by simp [rounds, plainRounds]; rfl⟩
  | cons item rest ih =>
      have hlt : n < items.length := by
        by_contra h
        rw [List.drop_eq_nil_of_le (by omega)] at hrest
        cases hrest
      have hdrop := List.drop_eq_getElem_cons hlt
      rw [hrest, List.cons.injEq] at hdrop
      have hitem : items[n]? = some item := by rw [List.getElem?_eq_getElem hlt, hdrop.1]
      have hlength : items.length = n + 1 + rest.length := by
        have := congrArg List.length hrest
        simp at this
        omega
      have hlast : (n + 1 == items.length) = rest.isEmpty := by
        rw [hlength]
        cases rest <;> simp
      have hmem : item ∈ items := List.mem_of_getElem? hitem
      have hround := hc.round template hadmits hitem (hitems item hmem)
      obtain ⟨assigned, hone⟩ := hbody hround ⟨_, _, rfl, rfl⟩
      obtain ⟨top, hmore⟩ := ih (n + 1) hdrop.2.symm
        (text ++ one (roundBindings key value n (n + 1 == items.length) item ++ b))
      refine ⟨top, ?_⟩
      simp only [List.length_cons, rounds]
      rw [bind_ok hone]
      rw [bind_ok (show topIs Frame.isLeft _ = (.ok false, _) from rfl)]
      simp only [Bool.false_eq_true, if_false]
      rw [bind_ok (show changeTop _ _ = (.ok (),
        { s with frames := roundFrame template key value items (n + 1) :: s.frames }) from rfl)]
      rw [hmore, plainRounds, hlast, String.append_assoc]

/-- A loop over items of a shape leaves the state as it was. -/
theorem runLoop_ok (hc : c.Meets given s b) (hadmits : c.admits key value = true)
    (hitems : ∀ item ∈ items, t.Holds item.2)
    (hbody : ∀ {s' b'}, (c.round key value t).Meets given s' b' → s'.Runs →
      ∃ assigned, body s' = (.ok (one b'), s'.withAssigned assigned)) :
    runLoop key value items body (pure "") s = (.ok (plainRounds one key value b 0 items), s) := by
  unfold runLoop
  cases items with
  | nil => rfl
  | cons item rest =>
      obtain ⟨top, hrounds⟩ := rounds_ok s.activeTemplate hc hadmits hitems hbody
        (item :: rest) 0 rfl ""
      simp only [List.isEmpty_cons, Bool.false_eq_true, if_false]
      rw [bind_ok (show (get : Run RenderState) s = (.ok s, s) from rfl)]
      rw [bind_ok (openFrame_ok _ s)]
      unfold roundFrame at hrounds
      rw [bind_ok hrounds, bind_ok (closeFrame_ok _ _), String.empty_append]
      rfl

end Loops

/-! ## What fits a context

One lemma for each kind of node with parts: what is known of the parts if the node fits.  Where two
ways may be taken, what is certain afterwards is certain after each of them. -/

section Fitting

variable {c : Context} {xs : List (String × Shape)}

theorem Node.adds?_assign {key : String} {isGlobal : Bool} {e : Expr}
    (h : (Node.assign key isGlobal e).adds? c = some xs) :
    isGlobal = false ∧ c.isFree key = true ∧ ∃ t, e.shape? c = some t ∧ xs = [(key, t)] := by
  cases isGlobal with
  | true => cases h
  | false =>
      simp only [Node.adds?] at h
      split at h
      next t he =>
        split at h
        next hfree =>
          cases h
          exact ⟨rfl, hfree, t, he, rfl⟩
        next => cases h
      next => cases h

theorem Node.adds?_branch {cases : List (Expr × List Node)} {otherwise : Option (List Node)}
    (h : (Node.branch cases otherwise).adds? c = some xs) :
    ∃ sure ys, casesAdd? c cases = some sure ∧ optionalAdds? c otherwise = some ys ∧
      (∀ {p t}, xs.lookup p = some t → ys.lookup p = some t) ∧
      ∀ zs, sure = some zs → ∀ {p t}, xs.lookup p = some t → zs.lookup p = some t := by
  simp only [Node.adds?] at h
  split at h
  next ys hcases hother =>
    cases h
    exact ⟨none, xs, hcases, hother, id, fun zs hzs => nomatch hzs⟩
  next zs ys hcases hother =>
    cases h
    refine ⟨some zs, ys, hcases, hother, fun hp => (Context.lookup_sharedEntries hp).2, ?_⟩
    intro zs' hzs
    cases hzs
    exact fun hp => (Context.lookup_sharedEntries hp).1
  next => cases h

theorem Node.adds?_loop {key : Option String} {value : String} {container : Expr}
    {body : List Node} {emptyBody : Option (List Node)}
    (h : (Node.loop key value container body emptyBody).adds? c = some xs) :
    ∃ path t more, container = .mk (.name path) false [] ∧ emptyBody = none ∧
      (c.shape? path).bind (Shape.item? key.isSome) = some t ∧ c.admits key value = true ∧
      nodesAdd? (c.round key value t) body = some more ∧ xs = [] := by
  rw [Node.adds?.eq_def] at h
  split at h
  case h_5 path _ hloop =>
    cases hloop
    split at h
    next t hitem =>
      split at h
      next hadmits =>
        obtain ⟨more, hbody, rfl⟩ := Option.map_eq_some_iff.mp h
        exact ⟨path, t, more, rfl, rfl, hitem, hadmits, hbody, rfl⟩
      next => cases h
    next => cases h
  case h_6 => cases h
  -- the other nodes are no loops
  all_goals contradiction

theorem casesAdd?_cons {e : Expr} {body : List Node} {rest : List (Expr × List Node)}
    {sure : Option (List (String × Shape))} (h : casesAdd? c ((e, body) :: rest) = some sure) :
    e.isTestable = true ∧ (∃ t, e.shape? c = some t) ∧
      ∃ ys more xs, nodesAdd? (c.supposing e) body = some ys ∧ casesAdd? c rest = some more ∧
        sure = some xs ∧ (∀ {p t}, xs.lookup p = some t → ys.lookup p = some t) ∧
        ∀ zs, more = some zs → ∀ {p t}, xs.lookup p = some t → zs.lookup p = some t := by
  simp only [casesAdd?] at h
  split at h
  next htest =>
    obtain ⟨htestable, hshape⟩ := Bool.and_eq_true_iff.mp htest
    refine ⟨htestable, Option.isSome_iff_exists.mp hshape, ?_⟩
    split at h
    next ys hbody hrest =>
      cases h
      exact ⟨ys, none, ys, hbody, hrest, rfl, id, fun zs hzs => nomatch hzs⟩
    next ys zs hbody hrest =>
      cases h
      refine ⟨ys, some zs, _, hbody, hrest, rfl,
        fun hp => (Context.lookup_sharedEntries hp).1, ?_⟩
      intro zs' hzs
      cases hzs
      exact fun hp => (Context.lookup_sharedEntries hp).2
    next => cases h
  next => cases h

end Fitting

/-! ## Nodes -/

section Nodes

variable (w : Surroundings) (render : List Node → Run String)

variable {w render} in
/-- A loop over the value of a path that fits the context. -/
theorem renderLoop_ok {key : Option String} {value path : String} {body : List Node}
    {c : Context} {t : Shape} {s : RenderState} {b : Bindings}
    (hitem : (c.shape? path).bind (Shape.item? key.isSome) = some t)
    (hadmits : c.admits key value = true) (hc : c.Meets w.given s b)
    (hbody : ∀ {s' b'}, (c.round key value t).Meets w.given s' b' → s'.Runs →
      ∃ assigned, renderNodes w render body "" s' =
        (.ok (plainNodes body b'), s'.withAssigned assigned)) :
    renderNode w render (.loop key value (.mk (.name path) false []) body none) s =
      (.ok (plainRounds (plainNodes body) key value b 0 (plainItems (b.get path))), s) := by
  obtain ⟨u, hpath, hu⟩ := Option.bind_eq_some_iff.mp hitem
  have hshape : Expr.shape? c (.mk (.name path) false []) = some u := by
    simp [Expr.shape?, hpath, filteredShape?]
  have hvalue : evalExpr w render (.mk (.name path) false []) s =
      (.ok (Expr.plain b (.mk (.name path) false [])), s) := (hc.evaluates _ hshape).1.value
  obtain ⟨hloop, hitems⟩ := (hc.holds hpath).items hu path
  simp only [renderNode]
  rw [bind_ok (show orFail (containerName _) s = (.ok path, s) from rfl),
    bind_ok (unescaped_ok hc.quiet hvalue)]
  rw [show Expr.plain b (.mk (.name path) false []) = b.get path from rfl, hloop,
    bind_ok (show orFail (.ok _) s = (.ok _, s) from rfl)]
  exact runLoop_ok hc hadmits hitems hbody

mutual

/-- A node that fits a context renders to its plain text. -/
theorem renderNode_ok (n : Node) {c : Context} {xs : List (String × Shape)} {s : RenderState}
    {b : Bindings} (hn : n.adds? c = some xs) (hc : c.Meets w.given s b) (hs : s.Runs) :
    ∃ s', renderNode w render n s = (.ok (n.plain b), s') ∧
      c.Leads w.given xs s s' (n.after b) := by
  cases n with
  | text a =>
      cases hn
      exact ⟨s, rfl, .refl hc⟩
  | print e =>
      simp only [Node.adds?, Option.map_eq_some_iff] at hn
      obtain ⟨t, he, rfl⟩ := hn
      exact ⟨s, map_ok (hc.evaluates e he).1.value valueText, .refl hc⟩
  | assign key isGlobal e =>
      obtain ⟨rfl, hfree, t, he, rfl⟩ := Node.adds?_assign hn
      obtain ⟨hvalue, hholds⟩ : Evaluates w render s e (e.plain b) ∧ t.Holds (e.plain b) :=
        hc.evaluates e he
      obtain ⟨s', hassign, hleads⟩ := hc.assign hs hfree hholds
      refine ⟨s', ?_, hleads⟩
      simp only [renderNode]
      rw [bind_ok (unescaped_ok hc.quiet hvalue.value), bind_ok hassign]
      rfl
  | branch cases otherwise =>
      obtain ⟨sure, ys, hcases, hother, hys, hsure⟩ := Node.adds?_branch hn
      simp only [renderNode, Node.plain, Node.after]
      rcases renderCases_ok cases hcases hc hs with
        ⟨hplain, hafter, hrun⟩ | ⟨text, b', s', zs, hplain, hafter, hzs, hrun, hleads⟩
      · obtain ⟨s', hrun', hleads⟩ := renderOptional_ok otherwise hother hc hs
        rw [bind_ok hrun, hplain, hafter]
        exact ⟨s', hrun', hleads.of_lookup hys⟩
      · rw [bind_ok hrun, hplain, hafter]
        exact ⟨s', rfl, hleads.of_lookup (hsure zs hzs)⟩
  | loop key value container body emptyBody =>
      obtain ⟨path, t, more, rfl, rfl, hitem, hadmits, hbody, rfl⟩ := Node.adds?_loop hn
      refine ⟨s, renderLoop_ok hitem hadmits hc fun hc' hs' => ?_, .refl hc⟩
      -- what a round assigns is gone with its frame
      obtain ⟨s', hrun, hleads⟩ := renderNodes_ok body "" hbody hc' hs'
      obtain ⟨assigned, rfl⟩ := hleads.change
      exact ⟨assigned, by simpa using hrun⟩
  | _ => cases hn

/-- Nodes that fit a context render to their plain text. -/
theorem renderNodes_ok (ns : List Node) {c : Context} {xs : List (String × Shape)}
    {s : RenderState} {b : Bindings} (text : String) (hn : nodesAdd? c ns = some xs)
    (hc : c.Meets w.given s b) (hs : s.Runs) :
    ∃ s', renderNodes w render ns text s = (.ok (text ++ plainNodes ns b), s') ∧
      c.Leads w.given xs s s' (afterNodes ns b) := by
  cases ns with
  | nil =>
      cases hn
      exact ⟨s, by simp [renderNodes, plainNodes]; rfl, .refl hc⟩
  | cons n ns =>
      simp only [nodesAdd?] at hn
      split at hn
      next first hfirst =>
        obtain ⟨more, hmore, rfl⟩ := Option.map_eq_some_iff.mp hn
        obtain ⟨s₁, hnode, hleads⟩ := renderNode_ok n hfirst hc hs
        obtain ⟨s₂, hnodes, hleads'⟩ := renderNodes_ok ns (text ++ n.plain b) hmore hleads.meets
          (hleads.runs hs)
        refine ⟨s₂, ?_, hleads.trans hleads'⟩
        simp only [renderNodes]
        rw [bind_ok hnode, bind_ok (RenderState.topIs_isInterrupted (hleads.runs hs))]
        simp only [Bool.false_eq_true, if_false]
        rw [hnodes, String.append_assoc]
        rfl
      next => cases hn

/-- The cases of a branch that fits a context render to the plain text of the first that
holds. -/
theorem renderCases_ok (cases : List (Expr × List Node)) {c : Context}
    {sure : Option (List (String × Shape))} {s : RenderState} {b : Bindings}
    (hn : casesAdd? c cases = some sure) (hc : c.Meets w.given s b) (hs : s.Runs) :
    (plainCases cases b = none ∧ afterCases cases b = none ∧
        renderCases w render cases s = (.ok none, s)) ∨
      ∃ text b' s' xs, plainCases cases b = some text ∧ afterCases cases b = some b' ∧
        sure = some xs ∧ renderCases w render cases s = (.ok (some text), s') ∧
        c.Leads w.given xs s s' b' := by
  cases cases with
  | nil => exact Or.inl ⟨rfl, rfl, rfl⟩
  | cons first rest =>
      obtain ⟨e, body⟩ := first
      obtain ⟨htestable, ⟨t, he⟩, ys, more, xs, hbody, hrest, rfl, hys, hmore⟩ :=
        casesAdd?_cons hn
      have htruth : truthOf w render e s = (.ok (e.holds b), s) :=
        (hc.evaluates e he).1.truth htestable
      simp only [plainCases, afterCases, renderCases]
      rw [bind_ok htruth]
      by_cases hholds : e.holds b = true
      · obtain ⟨s', hrun, hleads⟩ := renderNodes_ok body "" hbody (hc.supposing hholds) hs
        simp only [if_pos hholds]
        rw [map_ok hrun, String.empty_append]
        exact Or.inr ⟨_, _, s', xs, rfl, rfl, rfl, rfl, hleads.of_supposing.of_lookup hys⟩
      · simp only [if_neg hholds]
        rcases renderCases_ok rest hrest hc hs with
          hnone | ⟨text, b', s', zs, hplain, hafter, hzs, hrun, hleads⟩
        · exact Or.inl hnone
        · exact Or.inr ⟨text, b', s', xs, hplain, hafter, rfl, hrun,
            hleads.of_lookup (hmore zs hzs)⟩

theorem renderOptional_ok (body : Option (List Node)) {c : Context} {xs : List (String × Shape)}
    {s : RenderState} {b : Bindings} (hn : optionalAdds? c body = some xs)
    (hc : c.Meets w.given s b) (hs : s.Runs) :
    ∃ s', renderOptional w render body s = (.ok (plainOptional body b), s') ∧
      c.Leads w.given xs s s' (afterOptional body b) := by
  cases body with
  | none =>
      cases hn
      exact ⟨s, rfl, .refl hc⟩
  | some ns =>
      obtain ⟨s', hrun, hleads⟩ := renderNodes_ok ns "" hn hc hs
      exact ⟨s', by simpa [renderOptional, plainOptional] using hrun, hleads⟩

end

end Nodes

end FormScaffold.Template
