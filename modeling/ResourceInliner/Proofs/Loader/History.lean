/-
Histories of a host: changes of its settings, questions for its configuration, and modules to deliver, in any order. The
loader keeps nothing from one step to the next, and every module whose configuration is right is delivered once.

- `Host.after`: the host after a number of steps. `Host.fresh`: the same settings, with nothing delivered yet.
- `Ran`: all that delivering one module can do. `run_ran`: it does nothing else.
- `History`: what holds after any steps. `delivered_once`: it does.
-/
import ResourceInliner.Loader

namespace ResourceInliner.Host

variable (parser : Parser)

/-! ## Hosts over time -/

/-- the host after a number of steps -/
def after (host : Host) (steps : List Step) : Host :=
  steps.foldl (fun host s => (host.step s parser).1) host

/-- a host with the same query, options and callback that has been told nothing yet -/
def fresh (host : Host) : Host :=
  { query := host.query, options := host.options, hasCallback := host.hasCallback }

/-- does the step change the host? -/
def Step.isChange : Step → Bool
  | .change _ => true
  | _ => false

/-- was a module delivered, as the answer or through the callback? -/
def Answer.isDelivery : Answer → Bool
  | .ran (.ok _) => true
  | _ => false

/-- was a module delivered through the callback? -/
def Answer.isDeferred : Answer → Bool
  | .ran (.ok .deferred) => true
  | _ => false

/-- the hints of a history that the host could take: those that came while it could keep results -/
def hintsTaken : Host → List Step → Nat
  | _, [] => 0
  | host, s :: rest =>
    (if host.canCache then (host.step s parser).1.cacheHints - host.cacheHints else 0) +
      hintsTaken (host.step s parser).1 rest

theorem after_cons (host : Host) (s : Step) (rest : List Step) :
    host.after parser (s :: rest) = (host.step s parser).1.after parser rest := rfl

theorem after_append (host : Host) (before rest : List Step) :
    host.after parser (before ++ rest) = (host.after parser before).after parser rest :=
  List.foldl_append

theorem length_answers (host : Host) (steps : List Step) : (host.answers steps parser).length = steps.length := by
  induction steps generalizing host with
  | nil => rfl
  | cons s rest ih => rw [answers, List.length_cons, List.length_cons, ih]

theorem answers_append (host : Host) (before rest : List Step) :
    host.answers (before ++ rest) parser =
      host.answers before parser ++ (host.after parser before).answers rest parser := by
  induction before generalizing host with
  | nil => rfl
  | cons s before ih => rw [List.cons_append, answers, ih, answers, after_cons, List.cons_append]

/-! ## One module -/

/-- all that delivering one module can do -/
inductive Ran (host : Host) (source : String) (sourceMap : Option String) :
    Host × Except ConfigError LoaderOutput × List Event → Prop where
  /-- a wrong configuration is the answer, and nothing else happens -/
  | refused {error : ConfigError} (hconfig : host.config = .error error) :
    Ran host source sourceMap (host, .error error, [])
  /-- the module is inlined; then the host gets one hint, and its callback is called once -/
  | deferred {config : Config} (hconfig : host.config = .ok config) (hcallback : host.hasCallback = true) :
    Ran host source sourceMap
      ({ host with
          cacheHints := host.cacheHints + 1
          deliveries := host.deliveries ++ [⟨(transform config source parser).1, sourceMap⟩] },
        .ok .deferred, (transform config source parser).2 ++ if host.canCache then [] else [.notCached])
  /-- the module is inlined; then the host gets one hint, and the code is the answer -/
  | answered {config : Config} (hconfig : host.config = .ok config) (hcallback : host.hasCallback = false) :
    Ran host source sourceMap
      ({ host with cacheHints := host.cacheHints + 1 },
        .ok (.code (transform config source parser).1),
        (transform config source parser).2 ++ if host.canCache then [] else [.notCached])

theorem run_ran (host : Host) (source : String) (sourceMap : Option String) :
    Ran parser host source sourceMap (host.run source sourceMap parser) := by
  cases hconfig : host.config with
  | error error =>
    rw [run, hconfig]
    exact .refused hconfig
  | ok config =>
    have hrun : host.run source sourceMap parser =
        let delivered := host.hintCache.1.deliver (transform config source parser).1 sourceMap
        (delivered.1, .ok delivered.2, (transform config source parser).2 ++ host.hintCache.2) := by
      rw [run, hconfig]
    rw [hrun, deliver]
    by_cases hcallback : host.hasCallback = true
    · rw [if_pos (show host.hintCache.1.hasCallback = true from hcallback)]
      exact .deferred hconfig hcallback
    · rw [if_neg (show ¬ host.hintCache.1.hasCallback = true from hcallback)]
      exact .answered hconfig (Bool.eq_false_iff.2 hcallback)

section

variable {host : Host} {source : String} {sourceMap : Option String}
  {ran : Host × Except ConfigError LoaderOutput × List Event} (h : Ran parser host source sourceMap ran)

include h

/-- the answer depends on the configuration and on whether there is a callback -/
theorem Ran.answer : ran.2.1 =
    host.config.map fun config => if host.hasCallback then .deferred else .code (transform config source parser).1 := by
  cases h with
  | refused hconfig => rw [hconfig]; rfl
  | deferred hconfig hcallback => rw [hconfig, hcallback]; rfl
  | answered hconfig hcallback => rw [hconfig, hcallback]; rfl

/-- delivering a module changes no setting of the host -/
theorem Ran.settings : ran.1.fresh = host.fresh ∧ ran.1.canCache = host.canCache := by
  cases h <;> exact ⟨rfl, rfl⟩

theorem Ran.hints : ran.1.cacheHints = host.cacheHints + if (Answer.ran ran.2.1).isDelivery then 1 else 0 := by
  cases h <;> rfl

theorem Ran.deliveries : ran.1.deliveries = host.deliveries ∧ (Answer.ran ran.2.1).isDeferred = false ∨
    (Answer.ran ran.2.1).isDeferred = true ∧ ∃ config, host.config = .ok config ∧
      ran.1.deliveries = host.deliveries ++ [⟨(transform config source parser).1, sourceMap⟩] := by
  cases h with
  | refused => exact .inl ⟨rfl, rfl⟩
  | deferred hconfig => exact .inr ⟨rfl, _, hconfig, rfl⟩
  | answered => exact .inl ⟨rfl, rfl⟩

end

/-! ## One step -/

section

variable (host : Host) (s : Step)

theorem step_hints : (host.step s parser).1.cacheHints =
    host.cacheHints + if (host.step s parser).2.1.isDelivery then 1 else 0 := by
  cases s with
  | run source sourceMap => exact (run_ran parser host source sourceMap).hints
  | _ => rfl

/-- the callback is called once for an answer that says so, and for no other -/
theorem step_deliveries :
    (host.step s parser).1.deliveries = host.deliveries ∧ (host.step s parser).2.1.isDeferred = false ∨
    (host.step s parser).2.1.isDeferred = true ∧
      ∃ delivery, (host.step s parser).1.deliveries = host.deliveries ++ [delivery] := by
  cases s with
  | run source sourceMap =>
    rcases (run_ran parser host source sourceMap).deliveries with hsame | ⟨hdeferred, config, -, hmore⟩
    · exact .inl hsame
    · exact .inr ⟨hdeferred, _, hmore⟩
  | _ => exact .inl ⟨rfl, rfl⟩

/-- a step that delivers leaves the host as able to keep results as it was -/
theorem step_canCache (h : (host.step s parser).2.1.isDelivery = true) :
    (host.step s parser).1.canCache = host.canCache := by
  cases s with
  | run source sourceMap => exact (run_ran parser host source sourceMap).settings.2
  | _ => cases h

theorem step_answer_fresh : (host.fresh.step s parser).2.1 = (host.step s parser).2.1 := by
  cases s with
  | run source sourceMap =>
    have hanswer := (run_ran parser host source sourceMap).answer
    exact congrArg Answer.ran ((run_ran parser host.fresh source sourceMap).answer.trans hanswer.symm)
  | _ => rfl

theorem step_fresh : (host.fresh.step s parser).1.fresh = (host.step s parser).1.fresh := by
  cases s with
  | run source sourceMap =>
    have hsettings := (run_ran parser host source sourceMap).settings.1
    exact (run_ran parser host.fresh source sourceMap).settings.1.trans hsettings.symm
  | _ => rfl

theorem step_fresh_of_not_change (h : s.isChange = false) : (host.step s parser).1.fresh = host.fresh := by
  cases s with
  | run source sourceMap => exact (run_ran parser host source sourceMap).settings.1
  | config => rfl
  | change => cases h

end

/-! ## Any number of steps -/

section

variable (host : Host) (steps : List Step)

theorem after_fresh : (host.fresh.after parser steps).fresh = (host.after parser steps).fresh := by
  induction steps generalizing host with
  | nil => rfl
  | cons s rest ih => rw [after_cons, after_cons, ← ih, step_fresh, ih]

/-- the settings are those that the changes alone make -/
theorem after_changes : (host.after parser (steps.filter Step.isChange)).fresh = (host.after parser steps).fresh := by
  induction steps generalizing host with
  | nil => rfl
  | cons s rest ih =>
    rw [after_cons, ← ih]
    cases hchange : s.isChange with
    | true => rw [List.filter_cons_of_pos hchange, after_cons]
    | false =>
      rw [List.filter_cons_of_neg (by rw [hchange]; decide), ← after_fresh parser host,
        ← after_fresh parser (host.step s parser).1, step_fresh_of_not_change parser host s hchange]

theorem after_hints :
    (host.after parser steps).cacheHints =
      host.cacheHints + (host.answers steps parser).countP fun done => done.2.1.isDelivery := by
  induction steps generalizing host with
  | nil => rfl
  | cons s rest ih =>
    rw [after_cons, ih, step_hints, answers, List.countP_cons]
    omega

theorem after_deliveries : (host.after parser steps).deliveries.length =
    host.deliveries.length + (host.answers steps parser).countP fun done => done.2.1.isDeferred := by
  induction steps generalizing host with
  | nil => rfl
  | cons s rest ih =>
    rw [after_cons, ih, answers, List.countP_cons]
    rcases step_deliveries parser host s with ⟨hsame, hdeferred⟩ | ⟨hdeferred, delivery, hmore⟩
    · rw [hsame, if_neg (by rw [hdeferred]; decide), Nat.add_zero]
    · rw [hmore, if_pos hdeferred, List.length_append, List.length_singleton]
      omega

theorem after_deliveries_of_none (h : ∀ done ∈ host.answers steps parser, done.2.1.isDeferred = false) :
    (host.after parser steps).deliveries = host.deliveries := by
  induction steps generalizing host with
  | nil => rfl
  | cons s rest ih =>
    obtain ⟨hfirst, hrest⟩ := List.forall_mem_cons.1 h
    rw [after_cons, ih _ hrest]
    rcases step_deliveries parser host s with ⟨hsame, -⟩ | ⟨hdeferred, -⟩
    · exact hsame
    · rw [hdeferred] at hfirst
      cases hfirst

theorem hintsTaken_eq : host.hintsTaken parser steps =
    (host.answers steps parser).countP fun done => done.1.canCache && done.2.1.isDelivery := by
  induction steps generalizing host with
  | nil => rfl
  | cons s rest ih =>
    rw [hintsTaken, ih, answers, List.countP_cons, step_hints]
    cases hdelivery : (host.step s parser).2.1.isDelivery with
    | false => simp
    | true =>
      rw [step_canCache parser host s hdelivery]
      cases host.canCache <;> simp [Nat.add_comm]

end

/-- what holds of a host after any steps, whatever parser is at work -/
structure History (host : Host) (steps : List Step) : Prop where
  /-- every step is answered by the host of the moment -/
  answered : ∀ before s rest, steps = before ++ s :: rest →
    (host.answers steps parser)[before.length]? = some ((host.after parser before).step s parser)
  /-- every module is refused without any effect, or delivered once after one hint -/
  ran : ∀ before source sourceMap rest, steps = before ++ .run source sourceMap :: rest →
    Ran parser (host.after parser before) source sourceMap ((host.after parser before).run source sourceMap parser)
  /-- the settings of the moment are those that the changes alone have made -/
  changed : ∀ before rest, steps = before ++ rest →
    (host.after parser before).fresh = (host.after parser (before.filter Step.isChange)).fresh
  /-- every answer is that of a fresh host with these settings -/
  asFresh : ∀ before s rest, steps = before ++ s :: rest →
    ((host.after parser before).step s parser).2.1 = ((host.after parser before).fresh.step s parser).2.1
  /-- the callback was called for every answer that says so -/
  deferred : (host.after parser steps).deliveries.length =
    host.deliveries.length + (host.answers steps parser).countP fun done => done.2.1.isDeferred
  /-- the last call was that for the latest of them -/
  latest : ∀ before source sourceMap rest, steps = before ++ .run source sourceMap :: rest →
    ((host.after parser before).run source sourceMap parser).2.1 = .ok .deferred →
    (∀ done ∈ ((host.after parser before).run source sourceMap parser).1.answers rest parser,
      done.2.1.isDeferred = false) →
    ∃ config, (host.after parser before).config = .ok config ∧
      (host.after parser steps).deliveries.getLast? = some ⟨(transform config source parser).1, sourceMap⟩
  /-- one hint came for every module that was delivered -/
  hinted : (host.after parser steps).cacheHints =
    host.cacheHints + (host.answers steps parser).countP fun done => done.2.1.isDelivery
  /-- of the hints, the host could take those for the modules delivered while it could keep results -/
  taken : host.hintsTaken parser steps =
    (host.answers steps parser).countP fun done => done.1.canCache && done.2.1.isDelivery

/-- **Main result.** Whatever a host has been through, every module whose configuration is right is delivered exactly
once, with one hint, and nothing but the settings of the moment makes a difference. -/
theorem delivered_once (host : Host) (steps : List Step) : History parser host steps where
  answered := by
    rintro before s rest rfl
    rw [answers_append, ← length_answers parser host before, List.getElem?_append_right (Nat.le_refl _), Nat.sub_self]
    rfl
  ran _ source sourceMap _ _ := run_ran parser _ source sourceMap
  changed before _ _ := (after_changes parser host before).symm
  asFresh _ s _ _ := (step_answer_fresh parser _ s).symm
  deferred := after_deliveries parser host steps
  latest := by
    rintro before source sourceMap rest rfl hdeferred hrest
    have hdone : (host.after parser (before ++ .run source sourceMap :: rest)).deliveries =
        ((host.after parser before).run source sourceMap parser).1.deliveries := by
      rw [after_append, after_cons]
      exact after_deliveries_of_none parser _ rest hrest
    rw [hdone]
    have hran := run_ran parser (host.after parser before) source sourceMap
    rcases hran.deliveries with ⟨-, hnot⟩ | ⟨-, config, hconfig, hmore⟩
    · rw [hdeferred] at hnot
      cases hnot
    · exact ⟨config, hconfig, by rw [hmore, List.getLast?_concat]⟩
  hinted := after_hints parser host steps
  taken := hintsTaken_eq parser host steps

end ResourceInliner.Host
