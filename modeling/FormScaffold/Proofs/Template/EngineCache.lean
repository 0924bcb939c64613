import FormScaffold.Proofs.Record.KeyedOrder
import FormScaffold.Template.Engine

/-!
# The engine's cache

The engine does not read a source again whose hash it keeps under the name already.  An engine
that keeps no hashes and adds every source anew gives the same answers, whatever is asked of
both, as long as different sources have different digests.

What carries the comparison is that the kept templates are those of the sources that were last
accepted, the kept hashes are the hashes of these, and the whole set is sound.
-/

namespace FormScaffold

namespace Hash.Sha256

/-- The digits of a byte tell which byte it is. -/
theorem hexDigit_injective : ∀ m < 16, ∀ n < 16, hexDigit m = hexDigit n → m = n := by
  decide

theorem hexText_injective {bytes others : List UInt8} (h : hexText bytes = hexText others) :
    bytes = others := by
  unfold hexText at h
  have hdigits := String.ofList_injective h
  induction bytes generalizing others with
  | nil =>
      cases others with
      | nil => rfl
      | cons b rest => simp at hdigits
  | cons a rest ih =>
      cases others with
      | nil => simp at hdigits
      | cons b more =>
          simp only [List.flatMap_cons, List.cons_append, List.nil_append, List.cons.injEq]
            at hdigits
          obtain ⟨hhigh, hlow, hrest⟩ := hdigits
          have ha := a.toNat_lt
          have hb := b.toNat_lt
          have hhigh := hexDigit_injective _ (by omega) _ (by omega) hhigh
          have hlow := hexDigit_injective _ (by omega) _ (by omega) hlow
          have hbyte : a = b := UInt8.toNat_inj.mp (by omega)
          rw [hbyte, ih (congrArg String.ofList hrest) hrest]

end Hash.Sha256

namespace Template

open Hash Files Json

/-! ## Calls and answers -/

/-- What is asked of an engine. -/
inductive Call where
  | compile (name source : String)
  | render (world : Functions.World) (name : String) (model : Value)
  | renderFile (fs : FileSystem) (world : Functions.World) (name path : String) (model : Value)
  | clear
  | isCompiled (name : String)
  | count

/-- What an engine answers. -/
inductive Answer where
  | compiled (result : Except Failure Unit)
  | text (result : Except Failure String)
  | cleared
  | known (answer : Bool)
  | number (n : Nat)

/-- The name and the source that a call has compiled. -/
def Call.source? : Call → Option (String × String)
  | .compile name source => some (name, source)
  | .renderFile fs _ name path _ =>
      (Engine.readSource fs name path).toOption.map fun source => (name, source)
  | _ => none

/-- A source was refused. -/
def Answer.refuses : Answer → Bool
  | .compiled (.error _) => true
  | .text (.error (.templateCompile _ _)) => true
  | _ => false

/-- What takes calls: how it starts, and what it does for each of them. -/
structure Service (σ : Type) where
  start : σ
  compile : σ → String → String → Except Failure σ
  render : σ → Functions.World → String → Value → Except Failure String
  renderFile : σ → FileSystem → Functions.World → String → String → Value →
    σ × Except Failure String
  isCompiled : σ → String → Bool
  count : σ → Nat

namespace Service

variable {σ : Type} (service : Service σ)

/-- The answer to a call, and what is left after it. -/
def answer (s : σ) : Call → σ × Answer
  | .compile name source =>
      match service.compile s name source with
      | .error f => (s, .compiled (.error f))
      | .ok next => (next, .compiled (.ok ()))
  | .render world name model => (s, .text (service.render s world name model))
  | .renderFile fs world name path model =>
      Prod.map id .text (service.renderFile s fs world name path model)
  | .clear => (service.start, .cleared)
  | .isCompiled name => (s, .known (service.isCompiled s name))
  | .count => (s, .number (service.count s))

/-- The answers to calls, one after the other. -/
def answers : σ → List Call → List Answer
  | _, [] => []
  | s, c :: rest => (service.answer s c).2 :: answers (service.answer s c).1 rest

/-- What is left after calls. -/
def after (s : σ) (calls : List Call) : σ := calls.foldl (fun s c => (service.answer s c).1) s

theorem answers_append (s : σ) (before later : List Call) :
    service.answers s (before ++ later) =
      service.answers s before ++ service.answers (service.after s before) later := by
  induction before generalizing s with
  | nil => rfl
  | cons c rest ih => exact congrArg (List.cons _) (ih _)

theorem length_answers (s : σ) (calls : List Call) :
    (service.answers s calls).length = calls.length := by
  induction calls generalizing s with
  | nil => rfl
  | cons c rest ih => exact congrArg Nat.succ (ih _)

end Service

/-- The engine, which keeps hashes. -/
def cached : Service Engine where
  start := Engine.empty
  compile := Engine.compile
  render := Engine.render
  renderFile := Engine.renderFile
  isCompiled := Engine.isCompiled
  count := Engine.count

namespace Library

/-- Add a source to the set, whether or not it was there before. -/
def add (lib : Library) (name source : String) : Except Failure Library :=
  (lib.compile name source).mapError fun text => .templateCompile name [text]

/-- Read a template file, add it to the set, and render it. -/
def renderFile (lib : Library) (fs : FileSystem) (world : Functions.World) (name path : String)
    (model : Value) : Library × Except Failure String :=
  match Engine.readSource fs name path with
  | .error f => (lib, .error f)
  | .ok source =>
      match lib.add name source with
      | .error f => (lib, .error f)
      | .ok next => (next, Engine.render ⟨next, []⟩ world name model)

end Library

/-- An engine that has its set of templates only, and adds every source to it anew. -/
def plain : Service Library where
  start := []
  compile := Library.add
  render := fun lib => Engine.render ⟨lib, []⟩
  renderFile := Library.renderFile
  isCompiled := fun lib name => Keyed.contains name lib
  count := List.length

/-! ## Sources in force -/

/-- The sources in force after a call, from those before it and its answer. -/
def inForce (sources : Keyed String) : Call × Answer → Keyed String
  | (.clear, _) => []
  | (c, a) =>
      match c.source? with
      | some (name, source) =>
          if a.refuses then sources else Keyed.insert name source sources
      | none => sources

/-- The sources in force after calls that were answered: under each name the last one that
was accepted since the engine was cleared. -/
def sourcesInForce (log : List (Call × Answer)) : Keyed String := log.foldl inForce []

/-- The set of templates that sources give. -/
def definitionsOf (sources : Keyed String) : Library :=
  sources.filterMap fun p => (Definition.ofText? p.1 p.2).map fun d => (p.1, d)

/-- The sources of calls. -/
def sourcesOf (calls : List Call) : List String :=
  calls.filterMap fun c => c.source?.map Prod.snd

/-! ## One call -/

namespace Engine

/-- The engine holds the templates and the hashes of sources, and its set is sound. -/
structure Holds (e : Engine) (sources : Keyed String) : Prop where
  ordered : sources.Ordered
  templates : Keyed.Matches (fun name d s => Definition.ofText? name s = some d) e.library sources
  hashes : Keyed.Matches (fun _ hash s => hash = fingerprint s) e.fingerprints sources
  sound : Library.fault? e.library = none

theorem holds_empty : Holds empty [] where
  ordered := List.Pairwise.nil
  templates := List.Forall₂.nil
  hashes := List.Forall₂.nil
  sound := rfl

/-- A source has no hash in common with a different one in force. -/
def Apart (source : String) (sources : Keyed String) : Prop :=
  ∀ other ∈ Keyed.values sources, fingerprint source = fingerprint other → source = other

variable {e next : Engine} {sources : Keyed String} {name source : String}

theorem compile_library_eq_ok {lib next : Library} (h : lib.compile name source = .ok next) :
    ∃ d, Definition.ofText? name source = some d ∧ next = Keyed.insert name d lib ∧
      Library.fault? next = none := by
  unfold Library.compile at h
  cases hread : Definition.ofText? name source with
  | none =>
      rw [hread] at h
      cases h
  | some d =>
      simp only [hread] at h
      cases hfault : Library.fault? (Keyed.insert name d lib) with
      | some text =>
          rw [hfault] at h
          cases h
      | none =>
          rw [hfault] at h
          cases h
          exact ⟨d, rfl, rfl, hfault⟩

/-- Adding a source that is in force already gives the same set. -/
theorem Holds.add_again (h : Holds e sources) (hget : Keyed.get? name sources = some source) :
    e.library.add name source = .ok e.library := by
  obtain ⟨d, s, hd, hs, hread⟩ | ⟨_, hnone⟩ := h.templates.get? name
  · obtain rfl : s = source := Option.some.inj (hs.symm.trans hget)
    have hkept : Keyed.insert name d e.library = e.library :=
      Keyed.insert_of_get? (h.templates.ordered h.ordered) hd
    have hcompile : e.library.compile name s = .ok e.library := by
      unfold Library.compile
      rw [hread]
      simp only [hkept, h.sound]
    unfold Library.add
    rw [hcompile]
    rfl
  · rw [hnone] at hget
    cases hget

/-- The hash of a source is kept only if the source is in force. -/
theorem Holds.source_of_hash (h : Holds e sources) (hapart : Apart source sources)
    (hget : Keyed.get? name e.fingerprints = some (fingerprint source)) :
    Keyed.get? name sources = some source := by
  obtain ⟨hash, s, hhash, hs, hequal⟩ | ⟨hnone, _⟩ := h.hashes.get? name
  · have hsame : fingerprint source = fingerprint s :=
      (Option.some.inj (hget.symm.trans hhash)).trans hequal
    rwa [hapart s (List.mem_map_of_mem (Keyed.mem_of_get? hs)) hsame]
  · rw [hnone] at hget
    cases hget

/-- Compiling is adding the source to the set, whether or not its hash is kept. -/
theorem Holds.compile_library (h : Holds e sources) (name : String)
    (hapart : Apart source sources) :
    (e.compile name source).map Engine.library = e.library.add name source := by
  unfold compile
  by_cases hkept : (Keyed.get? name e.fingerprints == some (fingerprint source)) = true
  · have hforce := h.source_of_hash hapart (eq_of_beq hkept)
    rw [if_pos hkept, h.add_again hforce]
    rfl
  · rw [if_neg hkept]
    unfold Library.add
    cases e.library.compile name source <;> rfl

/-- A source that compiles is in force. -/
theorem Holds.compiled (h : Holds e sources) (hapart : Apart source sources)
    (hcompile : e.compile name source = .ok next) :
    Holds next (Keyed.insert name source sources) := by
  unfold compile at hcompile
  by_cases hkept : (Keyed.get? name e.fingerprints == some (fingerprint source)) = true
  · rw [if_pos hkept] at hcompile
    cases hcompile
    rwa [Keyed.insert_of_get? h.ordered (h.source_of_hash hapart (eq_of_beq hkept))]
  · simp only [if_neg hkept] at hcompile
    cases hadd : e.library.compile name source with
    | error text =>
        rw [hadd] at hcompile
        cases hcompile
    | ok lib =>
        rw [hadd] at hcompile
        cases hcompile
        obtain ⟨d, hread, rfl, hsound⟩ := compile_library_eq_ok hadd
        exact ⟨Keyed.ordered_insert _ _ h.ordered, h.templates.insert hread,
          h.hashes.insert rfl, hsound⟩

theorem compile_error {f : Failure} (h : e.compile name source = .error f) :
    ∃ text, f = .templateCompile name [text] := by
  unfold compile at h
  by_cases hkept : (Keyed.get? name e.fingerprints == some (fingerprint source)) = true
  · rw [if_pos hkept] at h
    cases h
  · simp only [if_neg hkept] at h
    cases hadd : e.library.compile name source with
    | error text =>
        rw [hadd] at h
        exact ⟨text, (Except.error.inj h).symm⟩
    | ok lib =>
        rw [hadd] at h
        cases h

/-- A rendering does not refuse a source. -/
theorem render_not_refused (world : Functions.World) (model : Value) :
    (Answer.text (e.render world name model)).refuses = false := by
  cases hrender : e.render world name model with
  | ok text => rfl
  | error f =>
      have hfailure : ∃ texts, f = renderFailure name texts := by
        unfold render at hrender
        split at hrender
        · split at hrender
          · cases hrender
          · exact ⟨_, (Except.error.inj hrender).symm⟩
        · exact ⟨_, (Except.error.inj hrender).symm⟩
      obtain ⟨texts, rfl⟩ := hfailure
      rfl

/-- A call after which a source is refused leaves the engine as it was. -/
theorem answer_refused {c : Call} (h : (cached.answer e c).2.refuses = true) :
    (cached.answer e c).1 = e := by
  cases c with
  | compile name source =>
      simp only [Service.answer, cached] at h ⊢
      cases hcompile : e.compile name source with
      | error f => rfl
      | ok next =>
          simp only [hcompile] at h
          cases h
  | renderFile fs world name path model =>
      simp only [Service.answer, cached, renderFile] at h ⊢
      cases hsource : readSource fs name path with
      | error f => rfl
      | ok source =>
          simp only [hsource] at h ⊢
          cases hcompile : e.compile name source with
          | error f => rfl
          | ok next =>
              simp only [hcompile, Prod.map_snd, render_not_refused] at h
              cases h
  | clear => cases h
  | render world name model => rfl
  | isCompiled name => rfl
  | count => rfl

theorem Holds.contains (h : Holds e sources) (name : String) :
    Keyed.contains name e.library = e.isCompiled name := by
  unfold isCompiled Keyed.contains
  obtain ⟨d, s, hd, hs, _⟩ | ⟨hd, hs⟩ := h.templates.get? name <;>
    obtain ⟨hash, t, hhash, ht, _⟩ | ⟨hhash, ht⟩ := h.hashes.get? name
  · rw [hd, hhash]
    rfl
  · rw [hs] at ht
    cases ht
  · rw [hs] at ht
    cases ht
  · rw [hd, hhash]
    rfl

theorem Holds.same_keys (h : Holds e sources) :
    Keyed.keys e.fingerprints = Keyed.keys e.library :=
  h.hashes.keys.trans h.templates.keys.symm

theorem Holds.count (h : Holds e sources) : e.library.length = e.count := by
  have hkeys := congrArg List.length h.same_keys
  simpa [Keyed.keys, Engine.count] using hkeys.symm

/-- The engine and the bare set answer a call alike, and go on alike; after it the engine holds
the sources that are then in force. -/
theorem Holds.answer (h : Holds e sources) {c : Call}
    (hapart : ∀ name source, c.source? = some (name, source) → Apart source sources) :
    plain.answer e.library c =
        ((cached.answer e c).1.library, (cached.answer e c).2) ∧
      Holds (cached.answer e c).1 (inForce sources (c, (cached.answer e c).2)) := by
  cases c with
  | compile name source =>
      have hnow := hapart name source rfl
      have hlibrary := h.compile_library name hnow
      simp only [Service.answer, plain, cached, ← hlibrary]
      cases hcompile : e.compile name source with
      | error f => exact ⟨rfl, h⟩
      | ok next => exact ⟨rfl, h.compiled hnow hcompile⟩
  | renderFile fs world name path model =>
      simp only [Service.answer, plain, cached]
      unfold renderFile Library.renderFile
      cases hsource : readSource fs name path with
      | error f =>
          refine ⟨rfl, ?_⟩
          simp only [inForce, Call.source?, hsource]
          exact h
      | ok source =>
          have hgiven : (Call.renderFile fs world name path model).source? =
              some (name, source) := by
            simp only [Call.source?, hsource]
            rfl
          have hnow := hapart name source hgiven
          have hlibrary := h.compile_library name hnow
          cases hcompile : e.compile name source with
          | error f =>
              rw [hcompile] at hlibrary
              obtain ⟨text, rfl⟩ := compile_error hcompile
              simp only [← hlibrary, hcompile, inForce, hgiven]
              exact ⟨rfl, h⟩
          | ok next =>
              rw [hcompile] at hlibrary
              simp only [← hlibrary, hcompile, inForce, hgiven, Prod.map_snd, render_not_refused]
              exact ⟨rfl, h.compiled hnow hcompile⟩
  | clear => exact ⟨rfl, holds_empty⟩
  | render world name model => exact ⟨rfl, h⟩
  | isCompiled name =>
      refine ⟨?_, h⟩
      simp only [Service.answer, plain, cached, h.contains]
  | count =>
      refine ⟨?_, h⟩
      simp only [Service.answer, plain, cached, h.count]

theorem definitionsOf_eq {lib : Library}
    (h : Keyed.Matches (fun name d s => Definition.ofText? name s = some d) lib sources) :
    lib = definitionsOf sources := by
  unfold definitionsOf
  induction h with
  | nil => rfl
  | cons hpair _ ih =>
      obtain ⟨hname, hread⟩ := hpair
      rw [hname] at hread
      rw [List.filterMap_cons, hread, ← ih, ← hname]
      rfl

end Engine

/-! ## Runs -/

/-- A source in force was so before the call, or is the call's own. -/
theorem mem_inForce {sources : Keyed String} {c : Call} {a : Answer} {source : String}
    (h : source ∈ Keyed.values (inForce sources (c, a))) :
    source ∈ Keyed.values sources ∨ ∃ name, c.source? = some (name, source) := by
  unfold inForce at h
  split at h
  · cases h
  next hcall =>
    cases hcall
    split at h
    next name given hgiven =>
      split at h
      · exact Or.inl h
      · obtain ⟨pair, hpair, rfl⟩ := List.mem_map.mp h
        rcases Keyed.mem_insert hpair with rfl | hbefore
        · exact Or.inr ⟨name, hgiven⟩
        · exact Or.inl (List.mem_map_of_mem hbefore)
    next => exact Or.inl h

/-- The engine and the bare set go through calls alike, and the engine ends up with the sources
that are in force then. -/
theorem Engine.Holds.run {e : Engine} {sources : Keyed String} {calls : List Call}
    {known : List String} (h : e.Holds sources)
    (hapart : ∀ s ∈ known, ∀ t ∈ known, fingerprint s = fingerprint t → s = t)
    (hsources : ∀ s ∈ Keyed.values sources, s ∈ known)
    (hcalls : ∀ s ∈ sourcesOf calls, s ∈ known) :
    plain.answers e.library calls = cached.answers e calls ∧
      (cached.after e calls).Holds
        ((calls.zip (cached.answers e calls)).foldl inForce sources) := by
  induction calls generalizing e sources with
  | nil => exact ⟨rfl, h⟩
  | cons c rest ih =>
      have hgiven : ∀ name source, c.source? = some (name, source) → source ∈ known := by
        intro name source hsource
        refine hcalls source (List.mem_filterMap.mpr ⟨c, List.mem_cons_self, ?_⟩)
        rw [hsource]
        rfl
      have hnow : ∀ name source, c.source? = some (name, source) → Apart source sources :=
        fun name source hsource other hother =>
          hapart source (hgiven name source hsource) other (hsources other hother)
      obtain ⟨hanswer, hholds⟩ := h.answer hnow
      have hkept : ∀ s ∈ Keyed.values (inForce sources (c, (cached.answer e c).2)),
          s ∈ known := by
        intro s hs
        rcases mem_inForce hs with hbefore | ⟨name, hsource⟩
        · exact hsources s hbefore
        · exact hgiven name s hsource
      have hrest : ∀ s ∈ sourcesOf rest, s ∈ known := by
        intro s hs
        obtain ⟨other, hother, hsource⟩ := List.mem_filterMap.mp hs
        exact hcalls s (List.mem_filterMap.mpr ⟨other, List.mem_cons_of_mem _ hother, hsource⟩)
      obtain ⟨hanswers, hlast⟩ := ih hholds hkept hrest
      refine ⟨?_, hlast⟩
      simp only [Service.answers, hanswer, hanswers]

/-- A call whose source is refused may as well not have been made: the later answers are those
without it. -/
theorem answers_without_refused {before later : List Call} {c : Call}
    (h : (cached.answer (cached.after cached.start before) c).2.refuses = true) :
    cached.answers cached.start (before ++ c :: later) =
      cached.answers cached.start before ++
        (cached.answer (cached.after cached.start before) c).2 ::
          (cached.answers cached.start (before ++ later)).drop before.length := by
  rw [Service.answers_append, Service.answers_append,
    ← Service.length_answers cached cached.start before, List.drop_left]
  simp only [Service.answers, Engine.answer_refused h]

/-- If different sources have different digests, the engine answers calls as one that keeps no
hashes and adds every source anew.  A refused source changes no later answer; the templates are
those of the sources in force, and the names with a hash are the names with a template. -/
theorem cached_answers_eq_plain (calls : List Call)
    (hdigests : ∀ s ∈ sourcesOf calls, ∀ t ∈ sourcesOf calls,
      Sha256.digest (Text.utf8Bytes s) = Sha256.digest (Text.utf8Bytes t) → s = t) :
    cached.answers cached.start calls = plain.answers plain.start calls ∧
      (∀ before c later, calls = before ++ c :: later →
        (cached.answer (cached.after cached.start before) c).2.refuses = true →
          cached.answers cached.start calls =
            cached.answers cached.start before ++
              (cached.answer (cached.after cached.start before) c).2 ::
                (cached.answers cached.start (before ++ later)).drop before.length) ∧
      (let e := cached.after cached.start calls
       let sources := sourcesInForce (calls.zip (cached.answers cached.start calls))
       e.library = definitionsOf sources ∧ Keyed.keys e.library = Keyed.keys sources ∧
        Keyed.keys e.fingerprints = Keyed.keys e.library) := by
  have hapart : ∀ s ∈ sourcesOf calls, ∀ t ∈ sourcesOf calls,
      Engine.fingerprint s = Engine.fingerprint t → s = t :=
    fun s hs t ht hequal => hdigests s hs t ht (Sha256.hexText_injective hequal)
  obtain ⟨hanswers, hholds⟩ := Engine.holds_empty.run hapart nofun fun _ hs => hs
  refine ⟨hanswers.symm, ?_, Engine.definitionsOf_eq hholds.templates, hholds.templates.keys,
    hholds.same_keys⟩
  rintro before c later rfl hrefused
  exact answers_without_refused hrefused

/-- A letter that is refused without its parent, which is then compiled twice before the letter is
compiled and rendered. -/
def letters : List Call :=
  [.compile "letter" "\x7b% extends 'form' %\x7d", .compile "form" "Dear",
    .compile "form" "Dear", .compile "letter" "\x7b% extends 'form' %\x7d",
    .render ⟨⟨0, 0⟩, []⟩ "letter" (.object []), .count]

theorem letters_answered :
    (cached.answers cached.start letters).map Answer.refuses =
        [true, false, false, false, false, false] ∧
      cached.answers cached.start letters = plain.answers plain.start letters := by
  have hrefused : (cached.answers cached.start letters).map Answer.refuses =
      [true, false, false, false, false, false] := by
    decide +kernel
  have hamong : ∀ s ∈ sourcesOf letters, s = "\x7b% extends 'form' %\x7d" ∨ s = "Dear" := by
    decide
  have hdifferent : Sha256.digest (Text.utf8Bytes "\x7b% extends 'form' %\x7d") ≠
      Sha256.digest (Text.utf8Bytes "Dear") := by
    decide +kernel
  refine ⟨hrefused, (cached_answers_eq_plain letters ?_).1⟩
  intro s hs t ht hequal
  rcases hamong s hs with rfl | rfl <;> rcases hamong t ht with rfl | rfl
  · rfl
  · exact absurd hequal hdifferent
  · exact absurd hequal.symm hdifferent
  · rfl

end Template

end FormScaffold
