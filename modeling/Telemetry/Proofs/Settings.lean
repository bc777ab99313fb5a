import Telemetry.Options.Reader
import Telemetry.Proofs.Except
import Telemetry.Proofs.Json.Presented

/-!
How an object of settings is read. Each member whose name is known sets one thing, each
other one is skipped, and what is set does not depend on where in the object it stands.
-/

namespace Telemetry

open Json Json.Document

/-- A setting that may be given or not, and what stands under its name: once a form of the
value that is given, or nothing. -/
def Stands {γ : Type} (name : String) (presents : γ → Script → Prop) (slot : Option γ)
    (members : List (String × Script)) : Prop :=
  AtMostOnce (fun script => ∃ value ∈ slot, presents value script) (slot = none)
    (named name members)

namespace Setting

variable {σ : Type}

/-- The members of its name do not keep the object from being read. -/
def Readable (setting : Setting σ) (members : List (String × Script)) : Prop :=
  named setting.name members = [] ∨ ∃ script change,
    named setting.name members = [script] ∧ setting.read script.document = .ok change

theorem Readable.tail {setting : Setting σ} {key : String} {item : Script}
    {members : List (String × Script)} (hreadable : setting.Readable ((key, item) :: members)) :
    setting.Readable members := by
  by_cases hkey : key = setting.name
  · subst hkey
    unfold Readable at hreadable
    rw [named_same] at hreadable
    rcases hreadable with hnone | ⟨_, _, hone, _⟩
    · cases hnone
    · exact Or.inl (List.cons.inj hone).2
  · unfold Readable at hreadable ⊢
    rwa [named_other item hkey] at hreadable

theorem named_tail {name key : String} {item : Script} {members : List (String × Script)}
    (hnone : named name ((key, item) :: members) = []) : key ≠ name ∧ named name members = [] := by
  by_cases hkey : key = name
  · subst hkey
    rw [named_same] at hnone
    cases hnone
  · rw [named_other item hkey] at hnone
    exact ⟨hkey, hnone⟩

variable {settings : List (Setting σ)}

theorem step_unknown {key : String} (hkey : settings.find? (·.name = key) = none)
    (progress : Progress σ) (item : Script) :
    step settings progress key item.document = .ok progress := by
  unfold step Json.Document.pass
  rw [hkey, item.skip_document]
  rfl

theorem step_known {key : String} {setting : Setting σ}
    (hkey : settings.find? (·.name = key) = some setting) {progress : Progress σ}
    (hgiven : key ∉ progress.given) {item : Script} {change : σ → σ}
    (hread : setting.read item.document = .ok change) :
    step settings progress key item.document = .ok ⟨change progress.value, key :: progress.given⟩ := by
  have hcontains : ¬ progress.given.contains key = true := by
    rwa [List.contains_iff_mem]
  unfold step
  rw [hkey]
  dsimp only
  rw [if_neg hcontains, hread]
  rfl

/-- An object is read if every setting in it stands there once, in a form that can be
read. -/
theorem walk_ok (members : List (String × Script))
    (hreadable : ∀ setting ∈ settings, setting.Readable members) (progress : Progress σ)
    (hgiven : ∀ setting ∈ settings, setting.name ∈ progress.given →
      named setting.name members = []) :
    ∃ after, walk (step settings) none progress (entries members) = .ok after := by
  induction members generalizing progress with
  | nil => exact ⟨progress, rfl⟩
  | cons member members ih =>
    obtain ⟨key, item⟩ := member
    have htail := fun setting hmember => (hreadable setting hmember).tail
    rw [entries, List.map_cons, walk]
    cases hkey : settings.find? (·.name = key) with
    | none =>
      rw [step_unknown hkey]
      exact ih htail progress fun setting hmember hname =>
        (named_tail (hgiven setting hmember hname)).2
    | some setting =>
      have hmember := List.mem_of_find?_eq_some hkey
      have hname : setting.name = key := by simpa using List.find?_some hkey
      subst hname
      have hnew : setting.name ∉ progress.given := fun hold =>
        (named_tail (hgiven setting hmember hold)).1 rfl
      rcases hreadable setting hmember with hnone | ⟨script, change, hone, hread⟩
      · exact absurd rfl (named_tail hnone).1
      · rw [named_same] at hone
        obtain ⟨rfl, hrest⟩ := List.cons.inj hone
        rw [step_known hkey hnew hread]
        refine ih htail _ fun other hother hname => ?_
        rcases List.mem_cons.mp hname with hsame | hold
        · rw [hsame]
          exact hrest
        · exact (named_tail (hgiven other hother hold)).2

/-! ## What an object has set -/

theorem of_step {progress after : Progress σ} {key : String} {document : Document}
    (hstep : step settings progress key document = .ok after) :
    settings.find? (·.name = key) = none ∧ after = progress ∨
    ∃ setting change, settings.find? (·.name = key) = some setting ∧
      setting.read document = .ok change ∧ after.value = change progress.value := by
  unfold step at hstep
  cases hkey : settings.find? (·.name = key) with
  | none =>
    rw [hkey] at hstep
    obtain ⟨_, _, hstep⟩ := ok_of_bind_ok hstep
    cases hstep
    exact Or.inl ⟨rfl, rfl⟩
  | some setting =>
    rw [hkey] at hstep
    dsimp only at hstep
    split at hstep
    · cases hstep
    · obtain ⟨change, hread, hstep⟩ := ok_of_bind_ok hstep
      cases hstep
      exact Or.inr ⟨setting, change, rfl, hread, rfl⟩

/-- The settings of other names leave this part alone. -/
def Keeps {α : Type} (settings : List (Setting σ)) (name : String) (get : σ → α) : Prop :=
  ∀ setting ∈ settings, setting.name ≠ name → ∀ document change,
    setting.read document = .ok change → ∀ o, get (change o) = get o

section

variable {α : Type} {name : String} {get : σ → α} (hkeeps : Keeps settings name get)

include hkeeps

theorem get_step {progress after : Progress σ} {key : String} {document : Document}
    (hkey : key ≠ name) (hstep : step settings progress key document = .ok after) :
    get after.value = get progress.value := by
  rcases of_step hstep with ⟨_, rfl⟩ | ⟨setting, change, hfound, hread, hvalue⟩
  · rfl
  · have hname : setting.name = key := by simpa using List.find?_some hfound
    rw [hvalue]
    exact hkeeps setting (List.mem_of_find?_eq_some hfound) (hname ▸ hkey) _ _ hread _

theorem get_walk_absent {members : List (String × Script)} (hnone : named name members = [])
    {progress after : Progress σ}
    (hwalk : walk (step settings) none progress (entries members) = .ok after) :
    get after.value = get progress.value := by
  induction members generalizing progress with
  | nil =>
    cases hwalk
    rfl
  | cons member members ih =>
    obtain ⟨key, item⟩ := member
    obtain ⟨hkey, hrest⟩ := named_tail hnone
    obtain ⟨next, hstep, hlater⟩ := ok_of_bind_ok hwalk
    rw [ih hrest hlater, get_step hkeeps hkey hstep]

theorem get_walk_once {setting : Setting σ} (hfound : settings.find? (·.name = name) = some setting)
    {script : Script} {value : α}
    (hset : ∀ change, setting.read script.document = .ok change → ∀ o, get (change o) = value)
    {members : List (String × Script)} (hone : named name members = [script])
    {progress after : Progress σ}
    (hwalk : walk (step settings) none progress (entries members) = .ok after) :
    get after.value = value := by
  induction members generalizing progress with
  | nil => cases hone
  | cons member members ih =>
    obtain ⟨key, item⟩ := member
    obtain ⟨next, hstep, hlater⟩ := ok_of_bind_ok hwalk
    by_cases hkey : key = name
    · subst hkey
      rw [named_same] at hone
      obtain ⟨rfl, hrest⟩ := List.cons.inj hone
      rw [get_walk_absent hkeeps hrest hlater]
      rcases of_step hstep with ⟨hnone, _⟩ | ⟨other, change, hother, hread, hvalue⟩
      · rw [hfound] at hnone
        cases hnone
      · cases hfound.symm.trans hother
        rw [hvalue]
        exact hset change hread _
    · rw [named_other item hkey] at hone
      exact ih hone hlater

end

section

variable (law : σ → Prop)
  (hlaw : ∀ setting ∈ settings, ∀ document change, setting.read document = .ok change →
    ∀ o, law o → law (change o))

include hlaw

theorem of_walk {stop : Option Break} {members : List (Except Cause String × Document)}
    {progress after : Progress σ} (hbefore : law progress.value)
    (hwalk : walk (step settings) stop progress members = .ok after) : law after.value := by
  induction members generalizing progress with
  | nil =>
    cases stop with
    | none =>
      cases hwalk
      exact hbefore
    | some place => cases hwalk
  | cons member members ih =>
    obtain ⟨key, item⟩ := member
    cases key with
    | error cause => cases hwalk
    | ok key =>
      obtain ⟨next, hstep, hwalk⟩ := ok_of_bind_ok hwalk
      refine ih ?_ hwalk
      rcases of_step hstep with ⟨_, rfl⟩ | ⟨setting, change, hfound, hchange, hvalue⟩
      · exact hbefore
      · rw [hvalue]
        exact hlaw setting (List.mem_of_find?_eq_some hfound) item change hchange _ hbefore

theorem of_readItems {source : Source} {stop : Option Break} {position : Nat} {o value : σ}
    {items : List Document} (hbefore : law o)
    (hread : readItems source stop settings position o items = .ok value) : law value := by
  induction settings generalizing position o items with
  | nil =>
    obtain ⟨_, _, hread⟩ := ok_of_bind_ok hread
    cases hread
    exact hbefore
  | cons setting later ih =>
    obtain ⟨hfirst, hlater⟩ := List.forall_mem_cons.mp hlaw
    cases items with
    | nil =>
      cases stop with
      | none =>
        cases hread
        exact hbefore
      | some place => cases hread
    | cons item items =>
      obtain ⟨change, hchange, hread⟩ := ok_of_bind_ok hread
      exact ih hlater (hfirst item change hchange o hbefore) hread

omit hlaw in
/-- What no value of a setting spoils. -/
theorem of_change {α : Type} {name : String} {read : Document → Result α} {set : σ → α → σ}
    (hset : ∀ document v, read document = .ok v → ∀ o, law o → law (set o v)) :
    ∀ document change, (of name read set).read document = .ok change →
      ∀ o, law o → law (change o) := by
  intro document change hchange
  obtain ⟨v, hread, hchange⟩ := ok_of_bind_ok hchange
  cases hchange
  exact hset document v hread

/-- What is true of the default and spoilt by no setting is true of all that is read. -/
theorem of_readAll {source : Source} {kind : String} {default value : σ}
    (hdefault : law default) {document : Document}
    (hread : readAll source settings kind default document = .ok value) : law value := by
  cases document with
  | object members stop =>
    obtain ⟨progress, hwalk, hread⟩ := ok_of_bind_ok hread
    cases hread
    exact of_walk law hlaw hdefault hwalk
  | array items stop => exact of_readItems law hlaw hdefault hread
  | _ => cases hread

end

/-! ## One setting -/

/-- The object gives the setting in a form that can be read, or not at all, and what is set
in the end depends on that alone. -/
structure Sets {α : Type} (settings : List (Setting σ)) (members : List (String × Script))
    (setting : Setting σ) (get : σ → α) (value : σ → α) : Prop where
  readable : setting.Readable members
  get_walk : ∀ {progress after : Progress σ},
    walk (step settings) none progress (entries members) = .ok after →
      get after.value = value progress.value

/-- A law of all changes that the values of a setting make is one of all that are read. -/
theorem forall_change {α : Type} {name : String} {read : Document → Result α}
    {set : σ → α → σ} {law : String → σ → σ → Prop} (hset : ∀ o v, law name o (set o v)) :
    ∀ document change, (of name read set).read document = .ok change →
      ∀ o, law name o (change o) := by
  intro document change hchange o
  obtain ⟨v, _, hchange⟩ := ok_of_bind_ok hchange
  cases hchange
  exact hset o v

section

variable {α γ : Type} {name : String} {read : Document → Result α} {set : σ → α → σ}
  {presents : γ → Script → Prop} {value : γ → α} {slot : Option γ}
  {members : List (String × Script)}
  (hread : ∀ given script, presents given script → read script.document = .ok (value given))

include hread

theorem readable_of_stands (hstands : Stands name presents slot members) :
    (Setting.of name read set).Readable members := by
  unfold Stands at hstands
  unfold Readable
  dsimp only [of]
  generalize named name members = scripts at hstands ⊢
  cases scripts with
  | nil => exact Or.inl rfl
  | cons script more =>
    cases more with
    | cons next more => cases hstands
    | nil =>
      obtain ⟨given, _, hgiven⟩ := hstands
      refine Or.inr ⟨script, fun o => set o (value given), rfl, ?_⟩
      rw [hread given script hgiven]
      rfl

/-- What is given is set, and what is not given stays. -/
theorem get_of_stands {get : σ → α} (hkeeps : Keeps settings name get)
    (hfound : settings.find? (·.name = name) = some (.of name read set))
    (hset : ∀ o v, get (set o v) = v) (hstands : Stands name presents slot members)
    {progress after : Progress σ}
    (hwalk : walk (step settings) none progress (entries members) = .ok after) :
    get after.value = slot.elim (get progress.value) value := by
  unfold Stands at hstands
  generalize hnamed : named name members = scripts at hstands
  cases scripts with
  | nil =>
    rw [show slot = none from hstands]
    exact get_walk_absent hkeeps hnamed hwalk
  | cons script more =>
    cases more with
    | cons next more => cases hstands
    | nil =>
      obtain ⟨given, rfl, hgiven⟩ := hstands
      refine get_walk_once hkeeps hfound ?_ hnamed hwalk
      intro change hchange o
      obtain ⟨held, hheld, hchange⟩ := ok_of_bind_ok hchange
      cases hchange
      rw [hset]
      exact Except.ok.inj (hheld.symm.trans (hread given script hgiven))

/-- All that is to be known of one setting in an object. -/
theorem sets_of_stands {get : σ → α} {law : String → σ → σ → Prop}
    (hlaws : ∀ setting ∈ settings, ∀ document change, setting.read document = .ok change →
      ∀ o, law setting.name o (change o))
    (hlaw : ∀ {other o changed}, law other o changed → name ≠ other → get changed = get o)
    (hfound : settings.find? (·.name = name) = some (.of name read set))
    (hset : ∀ o v, get (set o v) = v) (hstands : Stands name presents slot members) :
    Sets settings members (.of name read set) get fun o => slot.elim (get o) value := by
  have hkeeps : Keeps settings name get := by
    intro setting hmember hname document change hchange o
    exact hlaw (hlaws setting hmember document change hchange o) (Ne.symm hname)
  exact ⟨readable_of_stands hread hstands,
    fun hwalk => get_of_stands hread hkeeps hfound hset hstands hwalk⟩

end

/-- An object of settings that can all be read is read, to what the walk over it gives. -/
theorem readAll_object {source : Source} {kind : String} {default value : σ} {script : Script}
    {members : List (String × Script)} (hmembers : script.members? = some members)
    (hreadable : ∀ setting ∈ settings, setting.Readable members)
    (hvalue : ∀ after, walk (step settings) none ⟨default, []⟩ (entries members) = .ok after →
      after.value = value) :
    readAll source settings kind default script.document = .ok value := by
  obtain ⟨after, hwalk⟩ := walk_ok members hreadable ⟨default, []⟩ fun _ _ hgiven =>
    nomatch hgiven
  rw [Script.document_of_members? hmembers]
  unfold readAll
  dsimp only
  rw [hwalk]
  exact congrArg Except.ok (hvalue after hwalk)

end Setting

end Telemetry
