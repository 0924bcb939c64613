import FormScaffold.Proofs.Naming.EntityName
import FormScaffold.Proofs.Pipeline.Transcript
import FormScaffold.Proofs.Registry.FileNames
import Mathlib.Data.List.Forall2

/-!
# The plan of a run

Which templates a run renders is known before it starts: those of the enabled families, less
the optional ones that are not at hand.  A run works through this plan in order.  What it has
made at any time is what the first templates of the plan make, and it lays out its files only
after the whole plan.  `Progress` says so for a part of a run, where it is proved by induction
on the transcript; `FollowsPlan` says so for a whole run.  What the renderer and the file system
answer has to be settled only for the worlds that a run is in up to its layout.
-/

namespace FormScaffold

open Calendar

/-- The name is registered, and its source file is one of the files. -/
def Registry.isAtHand (r : Registry) (isFile : String → Bool) (name : String) : Bool :=
  match Keyed.get? name r.templates with
  | some entry => isFile (r.sourceOf entry)
  | none => false

/-- A template takes part unless it is optional and not at hand. -/
def FamilyTemplate.takesPart (r : Registry) (isFile : String → Bool) (t : FamilyTemplate) : Bool :=
  !t.isOptional || r.isAtHand isFile t.name

namespace Pipeline

/-- The templates that a run is to render, in order. -/
def plan (r : Registry) (isFile : String → Bool) (options : GenerationOptions) :
    List FamilyTemplate :=
  ((Family.enabled options).flatMap Family.templates).filter (FamilyTemplate.takesPart r isFile)

/-- The artifact is what a template makes: its kind, name and content are those of its entry. -/
structure Makes (r : Registry) (render : TemplateEntry → Model → Except Failure String)
    (model : Model) (t : FamilyTemplate) (a : Artifact) : Prop where
  made : ∃ entry, r.get t.name = .ok entry ∧ a.kind = entry.kind ∧
    a.filePath = entry.outputFileName model.entityName ∧ render entry model = .ok a.content

/-- The entry is the one registered for the template. -/
def Registered (r : Registry) (t : FamilyTemplate) (entry : TemplateEntry) : Prop :=
  r.get t.name = .ok entry

/-- Why a run with some exchanges stops before the templates that are next, and which of them it
attempts: it was found cancelled, the first of them is unknown, or this one cannot be rendered. -/
inductive Stop (r : Registry) (render : TemplateEntry → Model → Except Failure String)
    (model : Model) (exchanges : List Exchange) :
    List FamilyTemplate → List FamilyTemplate → Failure → Prop
  | cancelled (next : List FamilyTemplate) (h : .checked true ∈ exchanges) :
      Stop r render model exchanges next [] .cancelled
  | unknown {t : FamilyTemplate} (rest : List FamilyTemplate) {cause : Failure}
      (h : r.get t.name = .error cause) : Stop r render model exchanges (t :: rest) [] cause
  | failed {t : FamilyTemplate} (rest : List FamilyTemplate) {entry : TemplateEntry}
      {cause : Failure} (h : r.get t.name = .ok entry)
      (hrender : render entry model = .error cause) :
      Stop r render model exchanges (t :: rest) [t] cause

/-- How far a part of a run gets in its plan, with the entries rendered and what was made. -/
inductive Progress (r : Registry) (render : TemplateEntry → Model → Except Failure String)
    (model : Model) (exchanges : List Exchange) (next : List FamilyTemplate)
    (entries : List TemplateEntry) (made : List Artifact) : Except Failure Unit → Prop
  | finished (hmade : List.Forall₂ (Makes r render model) next made)
      (hentries : List.Forall₂ (Registered r) next entries) :
      Progress r render model exchanges next entries made (.ok ())
  | stopped {done rest attempted : List FamilyTemplate} {cause : Failure}
      (hnext : next = done ++ rest) (hmade : List.Forall₂ (Makes r render model) done made)
      (hstop : Stop r render model exchanges rest attempted cause)
      (hentries : List.Forall₂ (Registered r) (done ++ attempted) entries) :
      Progress r render model exchanges next entries made (.error cause)

section Progress

variable {r : Registry} {render : TemplateEntry → Model → Except Failure String} {model : Model}
  {exchanges : List Exchange}

theorem Stop.append {next attempted : List FamilyTemplate} {cause : Failure}
    (h : Stop r render model exchanges next attempted cause) (more : List FamilyTemplate) :
    Stop r render model exchanges (next ++ more) attempted cause := by
  cases h with
  | cancelled _ h => exact .cancelled _ h
  | unknown rest h => exact .unknown _ h
  | failed rest h hrender => exact .failed _ h hrender

/-- A part of a run stops for the same reason among the exchanges of the whole. -/
theorem Stop.mono {next attempted : List FamilyTemplate} {cause : Failure}
    (h : Stop r render model exchanges next attempted cause) {all : List Exchange}
    (hall : exchanges ⊆ all) : Stop r render model all next attempted cause := by
  cases h with
  | cancelled _ h => exact .cancelled _ (hall h)
  | unknown rest h => exact .unknown _ h
  | failed rest h hrender => exact .failed _ h hrender

theorem Progress.mono {next : List FamilyTemplate} {entries : List TemplateEntry}
    {made : List Artifact} {result : Except Failure Unit}
    (h : Progress r render model exchanges next entries made result) {all : List Exchange}
    (hall : exchanges ⊆ all) : Progress r render model all next entries made result := by
  cases h with
  | finished hmade hentries => exact .finished hmade hentries
  | stopped hnext hmade hstop hentries => exact .stopped hnext hmade (hstop.mono hall) hentries

/-- A part of a run that stops does so too with more to do. -/
theorem Progress.append {next : List FamilyTemplate} {entries : List TemplateEntry}
    {made : List Artifact} {cause : Failure}
    (h : Progress r render model exchanges next entries made (.error cause))
    (more : List FamilyTemplate) :
    Progress r render model exchanges (next ++ more) entries made (.error cause) := by
  cases h with
  | stopped hnext hmade hstop hentries =>
      refine .stopped ?_ hmade (hstop.append more) hentries
      rw [hnext, List.append_assoc]

/-- A part of a run after templates that were worked off. -/
theorem Progress.after {done next : List FamilyTemplate} {entries more : List TemplateEntry}
    {made others : List Artifact} {result : Except Failure Unit}
    (hmade : List.Forall₂ (Makes r render model) done made)
    (hentries : List.Forall₂ (Registered r) done entries)
    (h : Progress r render model exchanges next more others result) :
    Progress r render model exchanges (done ++ next) (entries ++ more) (made ++ others)
      result := by
  cases h with
  | finished hothers hmore =>
      exact .finished (List.rel_append hmade hothers) (List.rel_append hentries hmore)
  | @stopped done' rest attempted cause hnext hothers hstop hmore =>
      refine .stopped ?_ (List.rel_append hmade hothers) hstop ?_
      · rw [hnext, List.append_assoc]
      · rw [List.append_assoc]
        exact List.rel_append hentries hmore

/-- A run that stops although all that is next can be rendered was found cancelled. -/
theorem Progress.checked_of_renderable {next : List FamilyTemplate} {entries : List TemplateEntry}
    {made : List Artifact} {cause : Failure}
    (h : Progress r render model exchanges next entries made (.error cause))
    (hall : ∀ t ∈ next, ∃ entry content, r.get t.name = .ok entry ∧
      render entry model = .ok content) : .checked true ∈ exchanges := by
  cases h with
  | @stopped done _ _ _ hnext _ hstop _ =>
      cases hstop with
      | cancelled _ h => exact h
      | @unknown t rest _ h =>
          obtain ⟨entry, content, hget, -⟩ := hall t (by rw [hnext]; simp)
          rw [h] at hget
          cases hget
      | @failed t rest entry _ h hrender =>
          obtain ⟨entry', content, hget, hcontent⟩ := hall t (by rw [hnext]; simp)
          rw [h] at hget
          cases hget
          rw [hrender] at hcontent
          cases hcontent

end Progress

/-! ## From the transcript to the plan -/

/-- The entry that an exchange has rendered or tried to. -/
def Exchange.renderedEntry? : Exchange → Option TemplateEntry
  | .rendered entry _ _ => some entry
  | _ => none

/-- The entries that were rendered or attempted, in order. -/
def renderedEntries (exchanges : List Exchange) : List TemplateEntry :=
  exchanges.filterMap Exchange.renderedEntry?

theorem renderedEntries_append (before after : List Exchange) :
    renderedEntries (before ++ after) = renderedEntries before ++ renderedEntries after := by
  simp [renderedEntries]

section Plan

variable {ω : Type} {p : Pipeline ω} {S : ω → Prop} {isFile : String → Bool}
  {render : TemplateEntry → Model → Except Failure String} {model : Model}

theorem Lookup.renderedEntries {t : FamilyTemplate} {looked : List Exchange} {there : Bool}
    (h : Lookup p S t looked there) : renderedEntries looked = [] := by
  cases h <;> rfl

/-- A lookup finds out whether its template takes part. -/
theorem Lookup.takesPart
    (hfiles : ∀ path w, S w → (p.services.holdsFile path w).1 = isFile path)
    {t : FamilyTemplate} {looked : List Exchange} {there : Bool} (h : Lookup p S t looked there) :
    t.takesPart p.registry isFile = there := by
  cases h with
  | needed hopt => simp [FamilyTemplate.takesPart, hopt]
  | unregistered hopt hname =>
      simp [FamilyTemplate.takesPart, Registry.isAtHand, hopt, hname]
  | looked hopt hname hw hthere =>
      rw [hfiles _ _ hw] at hthere
      simp [FamilyTemplate.takesPart, Registry.isAtHand, hopt, hname, hthere]

variable (hrender : ∀ {name entry}, p.registry.get name = .ok entry → ∀ w, S w →
    (p.services.render entry model w).1 = render entry model)
  (hnamed : ∀ name entry, p.registry.get name = .ok entry →
    Text.isBlankText (entry.outputFileName model.entityName) = false)

include hrender

theorem Making.makes {t : FamilyTemplate} {own : List Exchange} {a : Artifact}
    (h : Making p S model t.name own (.ok a)) :
    Makes p.registry render model t a ∧
      List.Forall₂ (Registered p.registry) [t] (renderedEntries own) := by
  generalize hr : (Except.ok a : Except Failure Artifact) = result at h
  cases h with
  | unknown => cases hr
  | failed => cases hr
  | ended hget hw hcontent now =>
      rw [hrender hget _ hw] at hcontent
      unfold Artifact.create at hr
      split at hr
      · cases hr
        exact ⟨⟨_, hget, rfl, rfl, hcontent⟩, .cons hget .nil⟩
      · cases hr

include hnamed

/-- A template that makes nothing is unknown or cannot be rendered: the name of its file is
never the reason. -/
theorem Making.stop {t : FamilyTemplate} {own : List Exchange} {cause : Failure}
    (h : Making p S model t.name own (.error cause)) (rest : List FamilyTemplate)
    (exchanges : List Exchange) :
    ∃ attempted, Stop p.registry render model exchanges (t :: rest) attempted cause ∧
      List.Forall₂ (Registered p.registry) attempted (renderedEntries own) := by
  generalize hr : (Except.error cause : Except Failure Artifact) = result at h
  cases h with
  | unknown hget =>
      cases hr
      exact ⟨[], .unknown rest hget, .nil⟩
  | failed hget hw hfailed =>
      cases hr
      rw [hrender hget _ hw] at hfailed
      exact ⟨[t], .failed rest hget hfailed, .cons hget .nil⟩
  | ended hget =>
      unfold Artifact.create at hr
      rw [dif_pos (hnamed t.name _ hget)] at hr
      cases hr

variable (hfiles : ∀ path w, S w → (p.services.holdsFile path w).1 = isFile path)

include hfiles

/-- The rendering of templates works through those that take part.  The induction is on the
transcript, whose cases are the ends of one round of the loop. -/
theorem Rendering.progress {ts : List FamilyTemplate} {new : List Exchange}
    {result : Except Failure Unit} {made : List Artifact}
    (h : Rendering p S model ts new result made) :
    Progress p.registry render model new (ts.filter (FamilyTemplate.takesPart p.registry isFile))
      (renderedEntries new) made result := by
  induction h with
  | done => exact .finished .nil .nil
  | cancelled t ts => exact .stopped rfl .nil (.cancelled _ List.mem_cons_self) .nil
  | @skipped t ts looked new result made hlook hrest ih =>
      -- The template is left out of the plan as it is left out of the run.
      have hout : ¬ t.takesPart p.registry isFile = true := by simp [hlook.takesPart hfiles]
      have hentries : renderedEntries (.checked false :: (looked ++ new)) =
          renderedEntries new := by
        change renderedEntries (looked ++ new) = _
        rw [renderedEntries_append, hlook.renderedEntries, List.nil_append]
      rw [List.filter_cons_of_neg hout, hentries]
      exact ih.mono fun e he => by simp [he]
  | @stopped t looked own cause ts hlook hown =>
      have hin : t.takesPart p.registry isFile = true := hlook.takesPart hfiles
      have hentries : renderedEntries (.checked false :: (looked ++ own)) =
          renderedEntries own := by
        change renderedEntries (looked ++ own) = _
        rw [renderedEntries_append, hlook.renderedEntries, List.nil_append]
      rw [List.filter_cons_of_pos hin, hentries]
      obtain ⟨attempted, hstop, hattempted⟩ := hown.stop hrender hnamed (ts.filter _) _
      exact .stopped (List.nil_append _).symm .nil hstop hattempted
  | @made t ts looked own new a result made hlook hown hrest ih =>
      have hin : t.takesPart p.registry isFile = true := hlook.takesPart hfiles
      have hentries : renderedEntries (.checked false :: (looked ++ (own ++ new))) =
          renderedEntries own ++ renderedEntries new := by
        change renderedEntries (looked ++ (own ++ new)) = _
        rw [renderedEntries_append, renderedEntries_append, hlook.renderedEntries, List.nil_append]
      rw [List.filter_cons_of_pos hin, hentries]
      obtain ⟨hmakes, hregistered⟩ := hown.makes hrender
      exact Progress.after (.cons hmakes .nil) hregistered (ih.mono fun e he => by simp [he])

/-- The rendering of families works through the templates of all of them. -/
theorem FamilyRendering.progress {families : List Family} {new : List Exchange}
    {result : Except Failure Unit} {made : List Artifact}
    (h : FamilyRendering p S model families new result made) :
    Progress p.registry render model new
      ((families.flatMap Family.templates).filter (FamilyTemplate.takesPart p.registry isFile))
      (renderedEntries new) made result := by
  induction h with
  | done => exact .finished .nil .nil
  | cancelled family rest => exact .stopped rfl .nil (.cancelled _ List.mem_cons_self) .nil
  | stopped rest hown =>
      rw [List.flatMap_cons, List.filter_append]
      exact ((hown.progress hrender hnamed hfiles).mono (List.subset_cons_self _ _)).append _
  | @next family rest new more result made others hown hrest ih =>
      have hentries : renderedEntries (.checked false :: (new ++ more)) =
          renderedEntries new ++ renderedEntries more := renderedEntries_append new more
      rw [List.flatMap_cons, List.filter_append, hentries]
      cases hown.progress hrender hnamed hfiles with
      | finished hmade hregistered =>
          exact Progress.after hmade hregistered (ih.mono fun e he => by simp [he])

end Plan

/-! ## Checks for cancellation -/

/-- Between any two calls of the renderer, the organizer or the packager, a check has found
the run not cancelled; the flag says whether there was one since the last call.  Measuring
an archive belongs to its making and has no check of its own. -/
def Guarded : Bool → List Exchange → Prop
  | _, [] => True
  | _, .checked cancelled :: rest => Guarded (!cancelled) rest
  | checked, .rendered _ _ _ :: rest => checked = true ∧ Guarded false rest
  | checked, .organized _ _ _ :: rest => checked = true ∧ Guarded false rest
  | checked, .archived _ _ _ :: rest => checked = true ∧ Guarded false rest
  | checked, _ :: rest => Guarded checked rest

theorem Guarded.append {checked : Bool} {before after : List Exchange}
    (hbefore : Guarded checked before) (hafter : ∀ flag, Guarded flag after) :
    Guarded checked (before ++ after) := by
  induction before generalizing checked with
  | nil => exact hafter checked
  | cons e rest ih =>
      cases e with
      | rendered | organized | archived => exact ⟨hbefore.1, ih hbefore.2⟩
      | measured | sought | checked | clocked | named | told => exact ih hbefore

section Cancellation

variable {ω : Type} {p : Pipeline ω} {S : ω → Prop} {model : Model}

theorem Lookup.guarded_append {t : FamilyTemplate} {looked after : List Exchange} {there : Bool}
    (h : Lookup p S t looked there) {checked : Bool} (hafter : Guarded checked after) :
    Guarded checked (looked ++ after) := by
  cases h <;> exact hafter

theorem Making.guarded {name : String} {own : List Exchange} {r : Except Failure Artifact}
    (h : Making p S model name own r) : Guarded true own := by
  cases h <;> simp [Guarded]

theorem Rendering.guarded {ts : List FamilyTemplate} {new : List Exchange}
    {r : Except Failure Unit} {made : List Artifact} (h : Rendering p S model ts new r made)
    (flag : Bool) : Guarded flag new := by
  induction h generalizing flag with
  | done => trivial
  | cancelled => trivial
  | skipped hlook _ ih => exact hlook.guarded_append (ih true)
  | stopped _ hlook hown => exact hlook.guarded_append hown.guarded
  | made hlook hown _ ih => exact hlook.guarded_append (hown.guarded.append ih)

theorem FamilyRendering.guarded {families : List Family} {new : List Exchange}
    {r : Except Failure Unit} {made : List Artifact}
    (h : FamilyRendering p S model families new r made) (flag : Bool) : Guarded flag new := by
  induction h generalizing flag with
  | done => trivial
  | cancelled => trivial
  | stopped _ hown => exact hown.guarded true
  | next hown _ ih => exact (hown.guarded true).append ih

theorem Processing.guarded {request : GenerationRequest} {new : List Exchange}
    {r : Except Failure Unit} {made : List Artifact} {output : Option JobOutput}
    (h : Processing p S request model new r made output) (flag : Bool) : Guarded flag new := by
  cases h with
  | stopped hrendering => exact hrendering.guarded flag
  | rendered hrendering hpacking =>
      refine (hrendering.guarded flag).append fun _ => ?_
      cases hpacking <;> simp [Guarded]

theorem Lookup.not_checked {t : FamilyTemplate} {looked : List Exchange} {there : Bool}
    (h : Lookup p S t looked there) (found : Bool) : .checked found ∉ looked := by
  cases h <;> simp

theorem Making.not_checked {name : String} {own : List Exchange} {r : Except Failure Artifact}
    (h : Making p S model name own r) (found : Bool) : .checked found ∉ own := by
  cases h <;> simp

/-- A check that finds the run cancelled ends the rendering with it. -/
theorem Rendering.cancelled_of_checked {ts : List FamilyTemplate} {new : List Exchange}
    {r : Except Failure Unit} {made : List Artifact} (h : Rendering p S model ts new r made)
    (hchecked : .checked true ∈ new) : r = .error .cancelled := by
  induction h with
  | done => cases hchecked
  | cancelled => rfl
  | skipped hlook _ ih => exact ih (by simpa [hlook.not_checked] using hchecked)
  | stopped _ hlook hown => simp [hlook.not_checked, hown.not_checked] at hchecked
  | made hlook hown _ ih =>
      exact ih (by simpa [hlook.not_checked, hown.not_checked] using hchecked)

theorem FamilyRendering.cancelled_of_checked {families : List Family} {new : List Exchange}
    {r : Except Failure Unit} {made : List Artifact}
    (h : FamilyRendering p S model families new r made) (hchecked : .checked true ∈ new) :
    r = .error .cancelled := by
  induction h with
  | done => cases hchecked
  | cancelled => rfl
  | stopped _ hown => exact hown.cancelled_of_checked (by simpa using hchecked)
  | next hown _ ih =>
      have hlater := (List.mem_cons.mp hchecked).resolve_left (by simp)
      obtain hnew | hmore := List.mem_append.mp hlater
      · cases hown.cancelled_of_checked hnew
      · exact ih hmore

/-- A check that finds the run cancelled ends the processing with it. -/
theorem Processing.cancelled_of_checked {request : GenerationRequest} {new : List Exchange}
    {r : Except Failure Unit} {made : List Artifact} {output : Option JobOutput}
    (h : Processing p S request model new r made output) (hchecked : .checked true ∈ new) :
    r = .error .cancelled := by
  cases h with
  | stopped hrendering => exact hrendering.cancelled_of_checked hchecked
  | rendered hrendering hpacking =>
      obtain hnew | hmore := List.mem_append.mp hchecked
      · cases hrendering.cancelled_of_checked hnew
      · cases hpacking <;> simp at hmore <;> rfl

theorem Rendering.canBeCancelled {ts : List FamilyTemplate} {new : List Exchange}
    {r : Except Failure Unit} {made : List Artifact} (h : Rendering p S model ts new r made)
    (hchecked : .checked true ∈ new) : p.CanBeCancelled := by
  induction h with
  | done => cases hchecked
  | cancelled _ _ h => exact h
  | skipped hlook _ ih => exact ih (by simpa [hlook.not_checked] using hchecked)
  | stopped _ hlook hown => simp [hlook.not_checked, hown.not_checked] at hchecked
  | made hlook hown _ ih =>
      exact ih (by simpa [hlook.not_checked, hown.not_checked] using hchecked)

theorem FamilyRendering.canBeCancelled {families : List Family} {new : List Exchange}
    {r : Except Failure Unit} {made : List Artifact}
    (h : FamilyRendering p S model families new r made) (hchecked : .checked true ∈ new) :
    p.CanBeCancelled := by
  induction h with
  | done => cases hchecked
  | cancelled _ _ h => exact h
  | stopped _ hown => exact hown.canBeCancelled (by simpa using hchecked)
  | next hown _ ih =>
      have hlater := (List.mem_cons.mp hchecked).resolve_left (by simp)
      exact (List.mem_append.mp hlater).elim hown.canBeCancelled ih

/-- A check finds a processing cancelled only if some world would have it so. -/
theorem Processing.canBeCancelled {request : GenerationRequest} {new : List Exchange}
    {r : Except Failure Unit} {made : List Artifact} {output : Option JobOutput}
    (h : Processing p S request model new r made output) (hchecked : .checked true ∈ new) :
    p.CanBeCancelled := by
  cases h with
  | stopped hrendering => exact hrendering.canBeCancelled hchecked
  | rendered hrendering hpacking =>
      obtain hnew | hmore := List.mem_append.mp hchecked
      · exact hrendering.canBeCancelled hnew
      · cases hpacking <;> first | assumption | simp at hmore

end Cancellation

/-! ## Calls of organizer and packager -/

/-- A call of the organizer or the packager. -/
def Exchange.isDelivery : Exchange → Bool
  | .organized _ _ _ | .archived _ _ _ | .measured _ _ => true
  | _ => false

/-- The calls of organizer and packager, in order. -/
def deliveries (exchanges : List Exchange) : List Exchange := exchanges.filter Exchange.isDelivery

/-- Calls of organizer and packager: the organizer gets what was made, and the packager gets
what the organizer has laid out, if it has. -/
inductive DeliveryCalls (made : List Artifact) (project archiveDir : String) :
    List Exchange → Prop
  | none : DeliveryCalls made project archiveDir []
  | notLaidOut (cause : Failure) :
      DeliveryCalls made project archiveDir [.organized made project (.error cause)]
  | laidOut (layout : Output.Organized) :
      DeliveryCalls made project archiveDir [.organized made project (.ok layout)]
  | notPacked (layout : Output.Organized) (cause : Failure) :
      DeliveryCalls made project archiveDir
        [.organized made project (.ok layout), .archived layout.root archiveDir (.error cause)]
  | packed (layout : Output.Organized) (archive : String) (size : Except Failure Nat) :
      DeliveryCalls made project archiveDir
        [.organized made project (.ok layout), .archived layout.root archiveDir (.ok archive),
          .measured archive size]

theorem deliveries_append (before after : List Exchange) :
    deliveries (before ++ after) = deliveries before ++ deliveries after := by
  simp [deliveries]

section Deliveries

variable {ω : Type} {p : Pipeline ω} {S : ω → Prop} {model : Model}

theorem Lookup.no_deliveries {t : FamilyTemplate} {looked : List Exchange} {there : Bool}
    (h : Lookup p S t looked there) : deliveries looked = [] := by
  cases h <;> rfl

theorem Making.no_deliveries {name : String} {own : List Exchange} {r : Except Failure Artifact}
    (h : Making p S model name own r) : deliveries own = [] := by
  cases h <;> rfl

theorem Rendering.no_deliveries {ts : List FamilyTemplate} {new : List Exchange}
    {r : Except Failure Unit} {made : List Artifact} (h : Rendering p S model ts new r made) :
    deliveries new = [] := by
  have hchecked : ∀ {after : List Exchange}, deliveries after = [] →
      deliveries (.checked false :: after) = [] := fun hafter => hafter
  induction h with
  | done => rfl
  | cancelled => rfl
  | skipped hlook _ ih =>
      exact hchecked (by rw [deliveries_append, hlook.no_deliveries, ih, List.append_nil])
  | stopped _ hlook hown =>
      exact hchecked (by
        rw [deliveries_append, hlook.no_deliveries, hown.no_deliveries, List.append_nil])
  | made hlook hown _ ih =>
      exact hchecked (by
        rw [deliveries_append, deliveries_append, hlook.no_deliveries, hown.no_deliveries, ih,
          List.append_nil, List.append_nil])

/-- Nothing is laid out or packed while templates are rendered. -/
theorem FamilyRendering.no_deliveries {families : List Family} {new : List Exchange}
    {r : Except Failure Unit} {made : List Artifact}
    (h : FamilyRendering p S model families new r made) : deliveries new = [] := by
  induction h with
  | done => rfl
  | cancelled => rfl
  | stopped _ hown => exact hown.no_deliveries
  | next hown _ ih =>
      change deliveries (_ ++ _) = []
      rw [deliveries_append, hown.no_deliveries, ih, List.append_nil]

/-- The calls of a processing are in order. -/
theorem Processing.deliveryCalls {request : GenerationRequest} {new : List Exchange}
    {r : Except Failure Unit} {made : List Artifact} {output : Option JobOutput}
    (h : Processing p S request model new r made output) :
    DeliveryCalls made request.options.projectName p.archiveDir (deliveries new) := by
  cases h with
  | stopped hrendering =>
      rw [hrendering.no_deliveries]
      exact .none
  | rendered hrendering hpacking =>
      rw [deliveries_append, hrendering.no_deliveries, List.nil_append]
      cases hpacking with
      | cancelledFirst => exact .none
      | layoutFailed e => exact .notLaidOut e
      | cancelledThen layout => exact .laidOut layout
      | archiveFailed layout e => exact .notPacked layout e
      | sizeFailed layout archive e => exact .packed layout archive (.error e)
      | outputRefused layout hrefused => exact .packed layout _ (.ok _)
      | packed layout hvalid => exact .packed layout _ (.ok _)

end Deliveries

/-! ## The whole run -/

section Run

variable {ω : Type} {p : Pipeline ω} {S : ω → Prop} {isFile : String → Bool}
  {render : TemplateEntry → Model → Except Failure String} {model : Model}

theorem Packing.no_renderedEntries {made : List Artifact} {project : String}
    {new : List Exchange} {r : Except Failure Unit} {output : Option JobOutput}
    (h : Packing p made project new r output) : renderedEntries new = [] := by
  cases h <;> rfl

variable (hrender : ∀ {name entry}, p.registry.get name = .ok entry → ∀ w, S w →
    (p.services.render entry model w).1 = render entry model)
  (hnamed : ∀ name entry, p.registry.get name = .ok entry →
    Text.isBlankText (entry.outputFileName model.entityName) = false)
  (hfiles : ∀ path w, S w → (p.services.holdsFile path w).1 = isFile path)

include hrender hnamed hfiles

/-- A processing that calls the organizer has worked off its plan before. -/
theorem Processing.progress_of_deliveries {request : GenerationRequest} {new : List Exchange}
    {r : Except Failure Unit} {made : List Artifact} {output : Option JobOutput}
    (h : Processing p S request model new r made output) (hcalls : deliveries new ≠ []) :
    Progress p.registry render model new (plan p.registry isFile request.options)
      (renderedEntries new) made (.ok ()) := by
  cases h with
  | stopped hrendering => exact absurd hrendering.no_deliveries hcalls
  | rendered hrendering hpacking =>
      rw [renderedEntries_append, hpacking.no_renderedEntries, List.append_nil]
      exact (hrendering.progress hrender hnamed hfiles).mono (List.subset_append_left _ _)

/-- A processing that does not call the organizer has stopped somewhere in its plan. -/
theorem Processing.progress_of_no_deliveries {request : GenerationRequest} {new : List Exchange}
    {r : Except Failure Unit} {made : List Artifact} {output : Option JobOutput}
    (h : Processing p S request model new r made output) (hcalls : deliveries new = []) :
    ∃ cause, r = .error cause ∧
      Progress p.registry render model new (plan p.registry isFile request.options)
        (renderedEntries new) made (.error cause) := by
  cases h with
  | @stopped _ cause _ hrendering =>
      exact ⟨cause, rfl, hrendering.progress hrender hnamed hfiles⟩
  | @rendered new _ _ _ _ hrendering hpacking =>
      rw [deliveries_append, hrendering.no_deliveries, List.nil_append] at hcalls
      rw [renderedEntries_append, hpacking.no_renderedEntries, List.append_nil]
      cases hpacking with
      | cancelledFirst =>
          -- The plan is worked off, and the check before the organizer stops the run.
          refine ⟨.cancelled, rfl, ?_⟩
          cases hrendering.progress hrender hnamed hfiles with
          | finished hmade hentries =>
              exact .stopped (List.append_nil _).symm hmade (.cancelled [] (by simp))
                (by rwa [List.append_nil])
      | layoutFailed | cancelledThen | archiveFailed | sizeFailed | outputRefused | packed =>
          simp [deliveries, Exchange.isDelivery] at hcalls

end Run

/-- A run of a job follows its plan: what it lays out is all that the plan makes, a run that
stops before has made what a first part of the plan makes, and cancellation is checked for
before each call and stops the run.  A run that nothing stops lays out what it has made. -/
structure FollowsPlan {ω : Type} (p : Pipeline ω) (request : GenerationRequest)
    (isFile : String → Bool) (render : TemplateEntry → Model → Except Failure String)
    (exchanges : List Exchange) (job : Job) (cause? : Option Failure) : Prop where
  finished : deliveries exchanges ≠ [] →
    Progress p.registry render
      (Model.build request.form request.options job.request.requestedAt) exchanges
      (plan p.registry isFile request.options) (renderedEntries exchanges) job.artifacts (.ok ())
  stopped : deliveries exchanges = [] → ∃ cause, cause? = some cause ∧
    Progress p.registry render
      (Model.build request.form request.options job.request.requestedAt) exchanges
      (plan p.registry isFile request.options) (renderedEntries exchanges) job.artifacts
      (.error cause)
  calls : DeliveryCalls job.artifacts request.options.projectName p.archiveDir
    (deliveries exchanges)
  cancelled : .checked true ∈ exchanges → cause? = some .cancelled
  guarded : Guarded false exchanges
  reaches : .checked true ∉ exchanges →
    (∀ t ∈ plan p.registry isFile request.options, ∃ entry content,
      p.registry.get t.name = .ok entry ∧
        render entry (Model.build request.form request.options job.request.requestedAt) =
          .ok content) → deliveries exchanges ≠ []
  uncancelled : (∀ w, (p.services.isCancelled w).1 = false) → .checked true ∉ exchanges

/-- What a run with a job tells of it: the ended job, and why it failed if it did. -/
def outcome (job : Job) : Option Failure → Except RunFailure Job
  | none => .ok job
  | some cause => .error (.jobFailed job cause)

section Transcripts

variable {ω : Type} {p : Pipeline ω} {S : ω → Prop} {isFile : String → Bool}
  {render : TemplateEntry → Model → Except Failure String}

/-- Around its processing a run neither renders nor lays out nor packs nor checks. -/
theorem tellings_quiet (first count : Nat) (notice : Notice) :
    deliveries (tellings first count notice) = [] ∧
    renderedEntries (tellings first count notice) = [] ∧
    (.checked true ∉ tellings first count notice) ∧
    ∀ flag, Guarded flag (tellings first count notice) := by
  have hguarded : ∀ numbers : List Nat, ∀ flag,
      Guarded flag (numbers.map fun i => Exchange.told i notice) := by
    intro numbers flag
    induction numbers with
    | nil => trivial
    | cons i rest ih => exact ih
  refine ⟨?_, ?_, ?_, hguarded _⟩
  · simp only [deliveries, tellings, List.filter_map]
    simp [Function.comp_def, Exchange.isDelivery]
  · simp [renderedEntries, tellings, Exchange.renderedEntry?]
  · simp [tellings]

theorem opening_quiet (observers : Nat) (id : Uuid) (asked : JobRequest) :
    deliveries (opening observers id asked) = [] ∧
    renderedEntries (opening observers id asked) = [] ∧
    (.checked true ∉ opening observers id asked) ∧
    ∀ flag, Guarded flag (opening observers id asked) := by
  obtain ⟨hd, hr, hc, hg⟩ := tellings_quiet 0 observers
    ⟨⟨id, asked, .pending, [], none⟩, .created id asked.formId⟩
  obtain ⟨hd', hr', hc', hg'⟩ := tellings_quiet 0 observers ⟨startedJob id asked, .processing id⟩
  refine ⟨?_, ?_, ?_, fun flag => (hg flag).append hg'⟩
  · change deliveries (tellings _ _ _ ++ tellings _ _ _) = []
    rw [deliveries_append, hd, hd', List.append_nil]
  · change renderedEntries (tellings _ _ _ ++ tellings _ _ _) = []
    rw [renderedEntries_append, hr, hr', List.append_nil]
  · simp [opening, hc, hc']

variable (hrender : ∀ {name entry}, p.registry.get name = .ok entry → ∀ model w, S w →
    (p.services.render entry model w).1 = render entry model)
  (hnamed : ∀ name entry entity, p.registry.get name = .ok entry →
    Text.isBlankText (entry.outputFileName (Naming.entityName entity)) = false)
  (hfiles : ∀ path w, S w → (p.services.holdsFile path w).1 = isFile path)

include hrender hnamed hfiles

/-- A run whose processing follows the grammar follows the plan. -/
theorem Processing.followsPlan {request : GenerationRequest} (job : Job) {new : List Exchange}
    {r : Except Failure Unit} {output : Option JobOutput}
    (h : Processing p S request (Model.build request.form request.options job.request.requestedAt)
      new r job.artifacts output) {cause? : Option Failure}
    (hcause : ∀ cause, r = .error cause → cause? = some cause)
    (id : Uuid) (asked : JobRequest) (done : Instant) (notice : Notice) :
    FollowsPlan p request isFile render
      (opening p.observers.length id asked
        ++ (new ++ .clocked done :: tellings 0 p.observers.length notice)) job cause? := by
  obtain ⟨hd, hr, hc, hg⟩ := opening_quiet p.observers.length id asked
  obtain ⟨hd', hr', hc', hg'⟩ := tellings_quiet 0 p.observers.length notice
  have hdeliveries : deliveries (opening p.observers.length id asked
      ++ (new ++ .clocked done :: tellings 0 p.observers.length notice)) = deliveries new := by
    have hend : deliveries (.clocked done :: tellings 0 p.observers.length notice) = [] := hd'
    rw [deliveries_append, deliveries_append, hd, hend, List.nil_append, List.append_nil]
  have hentries : renderedEntries (opening p.observers.length id asked
      ++ (new ++ .clocked done :: tellings 0 p.observers.length notice)) =
        renderedEntries new := by
    have hend : renderedEntries (.clocked done :: tellings 0 p.observers.length notice) = [] := hr'
    rw [renderedEntries_append, renderedEntries_append, hr, hend, List.nil_append, List.append_nil]
  -- The model of the job has the entity name of the project.
  have hname : ∀ name entry, p.registry.get name = .ok entry →
      Text.isBlankText (entry.outputFileName
        (Model.build request.form request.options job.request.requestedAt).entityName) = false :=
    fun name entry hget => hnamed name entry request.options.projectName hget
  have hmodel := fun {name entry} (hget : p.registry.get name = .ok entry) =>
    hrender hget (Model.build request.form request.options job.request.requestedAt)
  have hall : new ⊆ opening p.observers.length id asked
      ++ (new ++ .clocked done :: tellings 0 p.observers.length notice) := fun e he => by simp [he]
  have hnew (hchecked : .checked true ∈ opening p.observers.length id asked
      ++ (new ++ .clocked done :: tellings 0 p.observers.length notice)) :
      .checked true ∈ new := by simpa [hc, hc'] using hchecked
  refine ⟨fun hcalls => ?_, fun hcalls => ?_, ?_, fun hchecked => ?_, ?_,
    fun hchecked hrenders hcalls => ?_, fun hnever hchecked => ?_⟩
  · rw [hentries]
    exact (h.progress_of_deliveries hmodel hname hfiles (hdeliveries ▸ hcalls)).mono hall
  · obtain ⟨cause, hresult, hprogress⟩ :=
      h.progress_of_no_deliveries hmodel hname hfiles (hdeliveries ▸ hcalls)
    rw [hentries]
    exact ⟨cause, hcause cause hresult, hprogress.mono hall⟩
  · rw [hdeliveries]
    exact h.deliveryCalls
  · exact hcause _ (h.cancelled_of_checked (hnew hchecked))
  · exact (hg false).append fun flag => (h.guarded flag).append hg'
  · obtain ⟨cause, -, hprogress⟩ :=
      h.progress_of_no_deliveries hmodel hname hfiles (hdeliveries ▸ hcalls)
    exact hchecked (hall (hprogress.checked_of_renderable hrenders))
  · obtain ⟨w, hfound⟩ := h.canBeCancelled (hnew hchecked)
    rw [hnever w] at hfound
    cases hfound

/-- An accepted request gets a job, whose run follows the plan. -/
theorem Transcript.followsPlan {request : GenerationRequest} {exchanges : List Exchange}
    {result : Except RunFailure Job} (h : Transcript p S request exchanges result)
    (hform : request.validateForm = .ok ())
    (hrequest : ∀ now, (request.toJobRequest now).validate = .ok ()) :
    ∃ job cause?, result = outcome job cause? ∧
      FollowsPlan p request isFile render exchanges job cause? := by
  -- An accepted request leaves two ends of the transcript.
  cases h with
  | formRejected h =>
      rw [hform] at h
      cases h
  | rejected _ id h =>
      rw [hrequest] at h
      cases h
  | @completed now new made output _ _ hprocessing id done =>
      refine ⟨⟨id, request.toJobRequest now, .completed done, made, output⟩, none, rfl, ?_⟩
      exact Processing.followsPlan hrender hnamed hfiles
        ⟨id, request.toJobRequest now, .completed done, made, output⟩ hprocessing
        (fun cause h => by cases h) id _ done _
  | @failed now new made output cause _ _ hprocessing id done =>
      refine ⟨⟨id, request.toJobRequest now, .failed done cause.message, made, output⟩,
        some cause, rfl, ?_⟩
      exact Processing.followsPlan hrender hnamed hfiles
        ⟨id, request.toJobRequest now, .failed done cause.message, made, output⟩ hprocessing
        (fun cause h => by cases h; rfl) id _ done _

end Transcripts

/-- The files that a registry that was built makes have names, whatever the project's. -/
theorem outputFileName_named {r : Registry} {root : String} {entries : List TemplateEntry}
    (hbuilt : Registry.build root entries = .ok r) (name : String) (entry : TemplateEntry)
    (project : String) (hget : r.get name = .ok entry) :
    Text.isBlankText (entry.outputFileName (Naming.entityName project)) = false :=
  Registry.isBlankText_outputFileName
    (Registry.sound_of_built hbuilt (Registry.mem_entries_of_get hget))
    (Naming.isBlankText_entityName project)

/-- For every accepted request, every registry that was built and every schedule of cancellation, a
run ends with a job and follows its plan, if up to the layout the worlds that it is in agree on what
a template renders and on which files are there. -/
theorem generate_follows_plan {ω : Type} (p : Pipeline ω) (request : GenerationRequest) {w : ω}
    {root : String} {entries : List TemplateEntry}
    (hbuilt : Registry.build root entries = .ok p.registry)
    {S : ω → Prop} (hkept : p.Preserves S) (hw : S w)
    {isFile : String → Bool}
    (hfiles : ∀ path w, S w → (p.services.holdsFile path w).1 = isFile path)
    {render : TemplateEntry → Model → Except Failure String}
    (hrender : ∀ {name entry}, p.registry.get name = .ok entry → ∀ model w, S w →
      (p.services.render entry model w).1 = render entry model)
    (hform : request.validateForm = .ok ())
    (hrequest : ∀ now, (request.toJobRequest now).validate = .ok ()) :
    (p.recorded.generate request ⟨w, []⟩).1 = (p.generate request w).1 ∧
    (p.recorded.generate request ⟨w, []⟩).2.world = (p.generate request w).2 ∧
    ∃ job cause?, (p.generate request w).1 = outcome job cause? ∧
      FollowsPlan p request isFile render (p.recorded.generate request ⟨w, []⟩).2.exchanges
        job cause? := by
  obtain ⟨hresult, hworld, htranscript⟩ := recorded_run hkept request hw
  exact ⟨hresult, hworld,
    htranscript.followsPlan hrender (outputFileName_named hbuilt) hfiles hform hrequest⟩

/-- The entries of the two scripts of a table. -/
def tableEntries : List TemplateEntry :=
  [.ofKind "create_table" .sqlTable "create_table.tera" "\x7bEntityName\x7d.sql" 10,
   .ofKind "stored_procedures" .storedProcedure "procedures.tera" "procedures.sql" 20]

/-- A generator of the scripts of a table in a world without files, which never cancels. -/
def tablePipeline : Pipeline Unit where
  registry := ⟨"templates", Registry.latest tableEntries⟩
  services :=
    { render := fun entry _ => pure entry.source
      organize := fun _ project => pure ⟨project, []⟩
      createArchive := fun _ destination => pure destination
      archiveSize := fun _ => pure 1
      holdsFile := fun _ => pure false
      isCancelled := pure false
      now := pure ⟨0, 0⟩
      freshId := pure ⟨1⟩ }
  observers := []
  archiveDir := "archives"

/-- A request for the scripts of a table with one column. -/
def tableRequest : GenerationRequest :=
  ⟨⟨1⟩, ⟨2⟩, 1, ⟨none, none, [⟨"a", "text", false, none, none, none, none, none, none, []⟩]⟩,
    { GenerationOptions.bare "p" with relationalSchema := true }, "r"⟩

theorem tableEntries_plan_followed :
    Registry.build "templates" tableEntries = .ok tablePipeline.registry ∧
    tableRequest.validateForm = .ok () ∧
    (∀ now, (tableRequest.toJobRequest now).validate = .ok ()) ∧
    ∃ job cause?, (tablePipeline.generate tableRequest ()).1 = outcome job cause? ∧
      FollowsPlan tablePipeline tableRequest (fun _ => false) (fun entry _ => .ok entry.source)
        (tablePipeline.recorded.generate tableRequest ⟨(), []⟩).2.exchanges job cause? := by
  have hbuilt : Registry.build "templates" tableEntries = .ok tablePipeline.registry := by
    decide
  have hform : tableRequest.validateForm = .ok () := by decide
  have hnow : (tableRequest.toJobRequest ⟨0, 0⟩).validate = .ok () := by decide
  have hrequest : ∀ now, (tableRequest.toJobRequest now).validate = .ok () := fun _ => hnow
  exact ⟨hbuilt, hform, hrequest,
    (generate_follows_plan tablePipeline tableRequest hbuilt tablePipeline.preserves_all trivial
      (fun _ _ _ => rfl) (fun _ _ _ _ => rfl) hform hrequest).2.2⟩

end Pipeline

end FormScaffold
