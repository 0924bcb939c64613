import FormScaffold.Proofs.Template.Scopes

/-!
# Expressions that fit do not fail

In a state that gives every path of a context a value of its shape, an expression that fits the
context has its plain value: evaluating it gives this value and leaves the state as it was, asking
whether it holds gives whether the value counts as true, and asking for a number gives the number.
-/

namespace FormScaffold.Template

open FormScaffold FormScaffold.Json

/-! ## Steps that succeed -/

section Steps

variable {α β : Type} {r : Run α} {s s' : RenderState} {a : α}

theorem bind_ok (h : r s = (.ok a, s')) (f : α → Run β) : (r >>= f) s = f a s' := by
  change (ExceptT.bind r f) s = f a s'
  simp [ExceptT.bind, ExceptT.mk, bind, StateT.bind, h, ExceptT.bindCont]

theorem map_ok (h : r s = (.ok a, s')) (f : α → β) : (f <$> r) s = (.ok (f a), s') := by
  rw [← bind_pure_comp, bind_ok h]
  rfl

theorem outcome_ok (h : r s = (.ok a, s')) : outcome r s = (.ok (.ok a), s') := by
  unfold outcome
  rw [h]

theorem explained_ok (h : r s = (.ok a, s')) (text : String) :
    explained text r s = (.ok a, s') := by
  unfold explained
  rw [bind_ok (outcome_ok h)]
  rfl

theorem unescaped_ok (hquiet : s.escaping = false) (h : r s = (.ok a, s)) :
    unescaped r s = (.ok a, s) := by
  have hstate : { s with escaping := false } = s := by rw [← hquiet]
  unfold unescaped
  rw [bind_ok (show (get : Run RenderState) s = (.ok s, s) from rfl),
    bind_ok (show (modify _ : Run Unit) s = (.ok (), { s with escaping := false }) from rfl),
    hstate, bind_ok (outcome_ok h),
    bind_ok (show (modify _ : Run Unit) s = (.ok (), { s with escaping := s.escaping }) from rfl)]
  rfl

end Steps

/-! ## Contexts that a state meets -/

/-- In a state every path of a context is found and has the value that it is bound to, which is
of the shape that the context tells; and text is not being made safe for markup. -/
structure Context.Meets (c : Context) (given : Keyed Value) (s : RenderState) (b : Bindings) :
    Prop where
  path : ∀ {p t}, c.shape? p = some t → PathIn c.heads p
  holds : ∀ {p t}, c.shape? p = some t → t.Holds (b.get p)
  found : ∀ {p t}, c.shape? p = some t → findIn? given p.toList s.frames = some (b.get p)
  quiet : s.escaping = false

section Expressions

variable {w : Surroundings} {render : List Node → Run String} {c : Context} {s : RenderState}
  {b : Bindings}

theorem Context.Meets.lookUp (h : c.Meets w.given s b) {p : String} {t : Shape}
    (hp : c.shape? p = some t) : lookUp w p s = (.ok (b.get p), s) := by
  obtain ⟨hbracket, hname⟩ := not_bracket_of_path (h.path hp)
  have hresolve : resolve w.given s.frames s.activeTemplate (p.length + 1) p.toList =
      .ok (b.get p) := by
    unfold resolve
    simp [hbracket, h.found hp]
  unfold Template.lookUp
  rw [bind_ok (show (get : Run RenderState) s = (.ok s, s) from rfl)]
  simp only [beq_iff_eq, hname, if_false, hresolve]
  rfl

/-! ### Filters -/

theorem evalExpr_text (hquiet : s.escaping = false) (a : String) :
    evalExpr w render (.mk (.text a) false []) s = (.ok (.string a), s) := by
  simp only [evalExpr, evalTerm, applyFilters, Parts.value, Term.rule]
  rw [bind_ok (show (some <$> (pure (Value.string a, true) : Run (Value × Bool))) s =
      (.ok (some (.string a, true)), s) from rfl)]
  change (if (s.escaping && true && !isMarkedSafe []) = true then _ else _ : Run Value) s = _
  simp [hquiet]
  rfl

theorem evalArgs_text (hquiet : s.escaping = false) {args : List (String × Expr)}
    (h : ∀ arg ∈ args, ∃ a, arg.2 = .mk (.text a) false []) :
    evalArgs w render args s = (.ok (args.map fun arg => (arg.1, arg.2.literalValue)), s) := by
  induction args with
  | nil => rfl
  | cons arg rest ih =>
      obtain ⟨key, e⟩ := arg
      obtain ⟨a, rfl⟩ := h (key, e) List.mem_cons_self
      have hrest := ih fun arg harg => h arg (List.mem_cons_of_mem _ harg)
      simp only [evalArgs]
      rw [bind_ok (unescaped_ok hquiet (evalExpr_text hquiet a)), bind_ok hrest]
      rfl

theorem lookup_jsonEncode : Filters.all.lookup "json_encode" = some Filters.jsonEncode := rfl

theorem lookup_length : Filters.all.lookup "length" = some Filters.length := rfl

theorem lookup_replace : Filters.all.lookup "replace" = some Filters.replace := rfl

theorem replace_text (source target text : String) :
    Filters.replace (.string text)
        (Keyed.ofPairs [("from", .string source), ("to", .string target)]) =
      .ok (.string (Text.replaced source target text)) := by
  have hargs : Keyed.ofPairs [("from", Value.string source), ("to", .string target)] =
      [("from", .string source), ("to", .string target)] :=
    Keyed.ofPairs_of_ordered (List.pairwise_pair.mpr (show "from" < "to" by decide))
  rw [hargs]
  rfl

/-- A filter that takes values of a shape is a known one with literal arguments, and gives a
value of the shape that it tells. -/
theorem Filter.accepts {f : Filter} {t u : Shape} {v : Value} (hshape : f.shape? t = some u)
    (hv : t.Holds v) :
    ∃ function r, Filters.all.lookup f.name = some function ∧
      (f.name == "safe" || f.name == "default") = false ∧
      (∀ arg ∈ f.args, ∃ a, arg.2 = .mk (.text a) false []) ∧
      function v (Keyed.ofPairs (f.args.map fun arg => (arg.1, arg.2.literalValue))) = .ok r ∧
      u.Holds r := by
  unfold Filter.shape? at hshape
  split at hshape
  · cases hshape
    exact ⟨_, _, lookup_jsonEncode, by decide, by simp [Filter.args], rfl, _, rfl⟩
  · cases hshape
    obtain ⟨text, rfl⟩ := hv
    exact ⟨_, _, lookup_length, by decide, by simp [Filter.args], rfl, _, rfl⟩
  · cases hshape
    obtain ⟨items, rfl, _⟩ := hv
    exact ⟨_, _, lookup_length, by decide, by simp [Filter.args], rfl, _, rfl⟩
  · cases hshape
    obtain ⟨members, rfl, _⟩ := hv
    exact ⟨_, _, lookup_length, by decide, by simp [Filter.args], rfl, _, rfl⟩
  · cases hshape
    obtain ⟨text, rfl⟩ := hv
    exact ⟨_, _, lookup_replace, rfl, by simp [Filter.args], replace_text _ _ text, _, rfl⟩
  · cases hshape

theorem applyFilters_cons {f : Filter} {fs : List Filter} {t u : Shape} {v : Value}
    {escapable : Bool} (hquiet : s.escaping = false) (hshape : f.shape? t = some u)
    (hv : t.Holds v) :
    applyFilters w render (f :: fs) v escapable s =
        applyFilters w render fs (f.plain v) true s ∧ u.Holds (f.plain v) := by
  obtain ⟨function, r, hlookup, hname, hargs, hresult, hr⟩ := Filter.accepts hshape hv
  obtain ⟨name, args⟩ := f
  have hplain : (Filter.mk name args).plain v = r := by
    simp only [Filter.name, Filter.args] at hlookup hresult
    simp only [Filter.plain, hlookup, hresult]
  have hfind : findFilter name s = (.ok function, s) := by
    unfold findFilter
    rw [show Filters.all.lookup name = some function from hlookup]
    rfl
  rw [hplain]
  refine ⟨?_, hr⟩
  simp only [Filter.name, Filter.args] at hname hargs hresult
  simp only [applyFilters, hname, Bool.false_eq_true, if_false]
  rw [bind_ok hfind, bind_ok (explained_ok (a := r) ?_ _)]
  rw [bind_ok (evalArgs_text hquiet hargs), hresult]
  rfl

theorem applyFilters_plain {fs : List Filter} {t u : Shape} {v : Value} {escapable : Bool}
    (hquiet : s.escaping = false) (hshape : filteredShape? fs t = some u) (hv : t.Holds v) :
    ∃ escapable', applyFilters w render fs v escapable s =
        (.ok (plainFiltered fs v, escapable'), s) ∧ u.Holds (plainFiltered fs v) := by
  induction fs generalizing t v escapable with
  | nil =>
      cases hshape
      exact ⟨escapable, rfl, hv⟩
  | cons f fs ih =>
      obtain ⟨middle, hfirst, hrest⟩ := Option.bind_eq_some_iff.mp hshape
      obtain ⟨happly, hmiddle⟩ : applyFilters w render (f :: fs) v escapable s =
          applyFilters w render fs (f.plain v) true s ∧ middle.Holds (f.plain v) :=
        applyFilters_cons hquiet hfirst hv
      rw [happly]
      exact ih hrest hmiddle

theorem hasDefault_of_filteredShape? {fs : List Filter} {t u : Shape} {v : Value}
    (hshape : filteredShape? fs t = some u) (hv : t.Holds v) : hasDefault fs = false := by
  cases fs with
  | nil => rfl
  | cons f fs =>
      obtain ⟨middle, hfirst, _⟩ := Option.bind_eq_some_iff.mp hshape
      obtain ⟨_, _, _, hname, _⟩ := Filter.accepts hfirst hv
      exact (Bool.or_eq_false_iff.mp hname).2

theorem finished_plain (hquiet : s.escaping = false) (negated : Bool) (fs : List Filter) (v : Value)
    (escapable : Bool) :
    finished negated fs v escapable s =
      (.ok (if negated then .bool (!isTruthy v) else v), s) := by
  unfold finished
  cases negated with
  | true => rfl
  | false =>
      cases v with
      | string text =>
          change (if (s.escaping && escapable && !isMarkedSafe fs) = true then _ else _ :
            Run Value) s = _
          simp [hquiet]
          rfl
      | _ => rfl

/-! ### Whole expressions -/

variable (w render s) in
/-- Each way of asking for an expression gives the answer that a value tells. -/
structure Evaluates (e : Expr) (v : Value) : Prop where
  value : evalExpr w render e s = (.ok v, s)
  truth : e.isTestable = true → truthOf w render e s = (.ok (isTruthy v), s)
  number : ∀ n, v = .number n → numberOf w render e s = (.ok (some n), s)

/-- A name whose value is found and passes the filters. -/
theorem Parts.value_name {parts : Parts} {path : String} {negated : Bool} {fs : List Filter}
    {v u : Value} (hquiet : s.escaping = false) (hlookup : lookUp w path s = (.ok v, s))
    (hdefault : hasDefault fs = false)
    (hfiltered : ∀ escapable, ∃ escapable',
      parts.filtered v escapable s = (.ok (u, escapable'), s)) :
    parts.value w (.name path) negated fs s =
      (.ok (if negated then .bool (!isTruthy u) else u), s) := by
  have hrest : ∀ escapable, (parts.filtered v escapable >>= fun x =>
      finished negated fs x.1 x.2) s = (.ok (if negated then .bool (!isTruthy u) else u), s) := by
    intro escapable
    obtain ⟨escapable', happly⟩ := hfiltered escapable
    rw [bind_ok happly, finished_plain hquiet]
  unfold Parts.value
  simp only
  rw [bind_ok (outcome_ok hlookup)]
  cases v with
  | null =>
      simp only [hdefault, Bool.false_eq_true, if_false]
      exact hrest true
  | _ => exact hrest _

theorem evaluates_name (hc : c.Meets w.given s b) {p : String} {negated : Bool} {fs : List Filter}
    {t u : Shape} (hp : c.shape? p = some t) (hfs : filteredShape? fs t = some u) :
    Evaluates w render s (.mk (.name p) negated fs) (Expr.plain b (.mk (.name p) negated fs)) := by
  have hvalue : ∀ parts : Parts, parts.filtered = applyFilters w render fs →
      parts.value w (.name p) negated fs s =
        (.ok (Expr.plain b (.mk (.name p) negated fs)), s) := by
    intro parts hparts
    refine Parts.value_name hc.quiet (hc.lookUp hp)
      (hasDefault_of_filteredShape? hfs (hc.holds hp)) fun escapable => ?_
    obtain ⟨escapable', h, _⟩ := applyFilters_plain hc.quiet hfs (hc.holds hp)
    exact ⟨escapable', hparts ▸ h⟩
  refine ⟨?_, fun _ => ?_, fun n hn => ?_⟩
  · simp only [evalExpr, Term.rule]
    exact hvalue _ rfl
  · simp only [truthOf, Parts.holds, Term.rule]
    rw [bind_ok (outcome_ok (hvalue _ rfl))]
    rfl
  · simp only [numberOf, Parts.asNumber, Term.rule]
    cases fs with
    | nil =>
        have hplain : b.get p = .number n := by
          cases negated with
          | true => cases hn
          | false => exact hn
        simp only [List.isEmpty_nil, if_true, numberOfTerm]
        rw [bind_ok (hc.lookUp hp), hplain]
        rfl
    | cons f fs =>
        simp only [List.isEmpty_cons, Bool.false_eq_true, if_false]
        rw [bind_ok (hvalue _ rfl), hn]
        rfl

theorem holds_name (hc : c.Meets w.given s b) {p : String} {fs : List Filter} {t u : Shape}
    (hp : c.shape? p = some t) (hfs : filteredShape? fs t = some u) :
    u.Holds (plainFiltered fs (b.get p)) := by
  obtain ⟨_, -, h⟩ : ∃ escapable, applyFilters w (fun _ => pure "") fs (b.get p) true s =
      (.ok (plainFiltered fs (b.get p), escapable), s) ∧ u.Holds (plainFiltered fs (b.get p)) :=
    applyFilters_plain hc.quiet hfs (hc.holds hp)
  exact h

/-- Two expressions with values that an operation accepts can be combined by it. -/
theorem truthOfTerm_logic {op : LogicOp} {l r : Expr} {v u : Value} {t t' : Shape}
    (hl : Evaluates w render s l v) (hr : Evaluates w render s r u) (hv : t.Holds v)
    (hu : t'.Holds u) (hop : op.accepts t t' = true)
    (htest : op.joinsTruths = true → l.isTestable = true ∧ r.isTestable = true) :
    ∃ answer, truthOfTerm w render (.logic op l r) s = (.ok answer, s) ∧
      answer.getD false = op.plain v u := by
  have hnumbers : t = .number → t' = .number →
      ∃ x y, v = .number x ∧ u = .number y ∧
        (numberOf w render l s = (.ok (some x), s)) ∧
        numberOf w render r s = (.ok (some y), s) := by
    rintro rfl rfl
    obtain ⟨x, rfl⟩ := hv
    obtain ⟨y, rfl⟩ := hu
    exact ⟨x, y, rfl, rfl, hl.number x rfl, hr.number y rfl⟩
  cases op with
  | disj =>
      obtain ⟨hlt, hrt⟩ := htest rfl
      simp only [truthOfTerm]
      rw [bind_ok (hl.truth hlt)]
      cases hholds : isTruthy v with
      | true => exact ⟨_, rfl, by simp [LogicOp.plain, hholds]⟩
      | false =>
          exact ⟨_, map_ok (hr.truth hrt) some, by simp [LogicOp.plain, hholds]⟩
  | conj =>
      obtain ⟨hlt, hrt⟩ := htest rfl
      simp only [truthOfTerm]
      rw [bind_ok (hl.truth hlt)]
      cases hholds : isTruthy v with
      | true =>
          exact ⟨_, map_ok (hr.truth hrt) some, by simp [LogicOp.plain, hholds]⟩
      | false => exact ⟨_, rfl, by simp [LogicOp.plain, hholds]⟩
  | equal | notEqual =>
      simp only [truthOfTerm]
      rw [bind_ok hl.value, bind_ok hr.value]
      exact ⟨_, rfl, rfl⟩
  | greater | greaterEq | less | lessEq =>
      simp only [LogicOp.accepts, Bool.and_eq_true, beq_iff_eq] at hop
      obtain ⟨x, y, rfl, rfl, hx, hy⟩ := hnumbers hop.1 hop.2
      simp only [truthOfTerm]
      rw [bind_ok hx, bind_ok hy]
      exact ⟨_, rfl, rfl⟩

/-- What is no name, no number and no concatenation holds as its own truth tells. -/
theorem Parts.holds_truth {parts : Parts} {t : Term} {answer : Option Bool}
    (hrule : t.rule = .truth ∨ t.rule = .plain) (hconcat : t.isConcat = false)
    (htruth : parts.truth s = (.ok answer, s)) :
    parts.holds w t false [] s = (.ok (answer.getD false), s) := by
  have hno : ¬ t.isConcat = true := by simp [hconcat]
  unfold Parts.holds
  rcases hrule with hrule | hrule <;>
    · rw [hrule]
      simp only [if_neg hno]
      rw [bind_ok htruth]
      cases answer with
      | none => rfl
      | some b => cases b <;> rfl

theorem evaluates_logic {op : LogicOp} {l r : Expr} {truth : Bool} {answer : Option Bool}
    (hterm : truthOfTerm w render (.logic op l r) s = (.ok answer, s))
    (hanswer : answer.getD false = truth) :
    Evaluates w render s (.mk (.logic op l r) false []) (.bool truth) := by
  refine ⟨?_, fun _ => ?_, fun n hn => nomatch hn⟩
  · simp only [evalExpr, Parts.value, Term.rule]
    rw [bind_ok hterm]
    cases answer with
    | none => subst hanswer; rfl
    | some b => subst hanswer; simp [applyFilters]; rfl
  · subst hanswer
    simp only [truthOf]
    exact Parts.holds_truth (Or.inl rfl) rfl hterm

theorem evaluates_text (hquiet : s.escaping = false) (a : String) :
    Evaluates w render s (.mk (.text a) false []) (.string a) := by
  refine ⟨evalExpr_text hquiet a, fun _ => ?_, fun n hn => nomatch hn⟩
  simp only [truthOf]
  rw [show isTruthy (.string a) = (some (!a.isEmpty)).getD false from rfl]
  exact Parts.holds_truth (Or.inr rfl) rfl rfl

theorem evaluates_int (n : Int) : Evaluates w render s (.mk (.int n) false []) (.ofInt n) := by
  refine ⟨rfl, fun h => (by cases h), fun m hm => ?_⟩
  cases hm
  rfl

/-- An expression that fits a context has its plain value, which is of the shape that it
tells. -/
theorem Context.Meets.evaluates (hc : c.Meets w.given s b) (e : Expr) {t : Shape}
    (he : e.shape? c = some t) :
    Evaluates w render s e (e.plain b) ∧ t.Holds (e.plain b) := by
  induction e using Expr.shape?.induct c generalizing t with
  | case1 path negated fs u hshape =>
      obtain ⟨first, hpath, hfs⟩ := Option.bind_eq_some_iff.mp hshape
      refine ⟨evaluates_name hc hpath hfs, ?_⟩
      simp only [Expr.shape?, hshape, Option.some.injEq] at he
      subst he
      cases negated with
      | true => exact ⟨_, rfl⟩
      | false => exact holds_name hc hpath hfs
  | case2 path negated fs hshape =>
      simp only [Expr.shape?, hshape] at he
      cases he
  | case3 a =>
      cases he
      exact ⟨evaluates_text hc.quiet a, a, rfl⟩
  | case4 n =>
      cases he
      exact ⟨evaluates_int n, _, rfl⟩
  | case5 op l r t u hr hl hfits ihl ihr =>
      simp only [Expr.shape?, hl, hr, hfits, if_true, Option.some.injEq] at he
      subst he
      obtain ⟨hvalue, hv⟩ := ihl hl
      obtain ⟨hvalue', hu⟩ := ihr hr
      obtain ⟨haccepts, htest⟩ := Bool.and_eq_true_iff.mp hfits
      have htest : op.joinsTruths = true → l.isTestable = true ∧ r.isTestable = true := by
        intro hjoins
        simpa [hjoins] using htest
      obtain ⟨answer, hterm, hanswer⟩ :=
        truthOfTerm_logic hvalue hvalue' hv hu haccepts htest
      exact ⟨evaluates_logic hterm hanswer, _, rfl⟩
  | case6 op l r t u hr hl hfits ihl ihr =>
      simp only [Expr.shape?, hl, hr, if_neg hfits] at he
      cases he
  | case7 op l r hnone ihl ihr =>
      cases hl : l.shape? c with
      | none =>
          simp only [Expr.shape?, hl] at he
          cases he
      | some t =>
          cases hr : r.shape? c with
          | none =>
              simp only [Expr.shape?, hl, hr] at he
              cases he
          | some u => exact (hnone t u hl hr).elim
  | case8 e h1 h2 h3 h4 =>
      rw [Expr.shape?.eq_5 c e h1 h2 h3 h4] at he
      cases he

end Expressions

end FormScaffold.Template
