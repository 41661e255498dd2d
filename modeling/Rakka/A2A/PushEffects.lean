import Rakka.Foundation.Runs

/-! The push notifications of one task: its events are paired with the configs that are active
when they are scheduled, and what is past is told from a watermark that is kept in memory. -/

namespace Rakka.A2A
open Foundation List

/-- `savedAt` records how many events the task had when the config was first saved. -/
structure A2APushConfigEntry where
  configId : String
  deleted : Bool
  savedAt : ℕ

structure PushEffect where
  sequence : ℕ
  config : A2APushConfigEntry

def PushEffect.target (effect : PushEffect) : ℕ × String := (effect.sequence, effect.config.configId)

def pushKey (taskId : String) (target : ℕ × String) : String :=
  "a2a-push:" ++ taskId ++ ":" ++ toString target.1 ++ ":" ++ target.2

/-- The outbox answers an effect whose key it holds as a duplicate. -/
def scheduleEffect (taskId : String) (outbox : List PushEffect) (effect : PushEffect) :
    List PushEffect :=
  if pushKey taskId effect.target ∈ (outbox.map PushEffect.target).map (pushKey taskId) then outbox
  else outbox ++ [effect]

inductive A2APushConfigError where
  | persistence
  | revisionConflict
  | outbox
  deriving DecidableEq

/-- How an attempt at a batch ends; a failure leaves the effects scheduled before it. -/
inductive BatchOutcome where
  | completes
  | fails (scheduled : ℕ) (error : A2APushConfigError)

def maxPushScheduleRedrives : ℕ := 3

/-- The loop over `schedule_effect_batch`, with the number of redrives left. -/
def redrive (taskId : String) (effects : List PushEffect) (outcome : ℕ → BatchOutcome) :
    ℕ → List PushEffect → Except A2APushConfigError ℕ × List PushEffect
  | left, outbox =>
    match outcome left, left with
    | .completes, _ => (.ok effects.length, effects.foldl (scheduleEffect taskId) outbox)
    | .fails scheduled .revisionConflict, left + 1 =>
      redrive taskId effects outcome left
        ((effects.take scheduled).foldl (scheduleEffect taskId) outbox)
    | .fails scheduled error, _ =>
      (.error error, (effects.take scheduled).foldl (scheduleEffect taskId) outbox)

/-- A task with events `1` to `lastSequence`. -/
structure PushWorld where
  lastSequence : ℕ
  configs : List A2APushConfigEntry
  watermark : ℕ
  outbox : List PushEffect

/-- `delete` also stands for the eviction of an entry by a save, and `resumes` tells whether the log
can be replayed from the watermark. -/
inductive PushOp where
  | emit
  | save (configId : String)
  | delete (configId : String)
  | schedule (newlyEmitted : List ℕ) (resumes loads : Bool) (outcome : ℕ → BatchOutcome)
  | restart

namespace PushWorld

def start : PushWorld := ⟨0, [], 0, []⟩

variable (taskId : String) (w : PushWorld)

def setDeleted (configId : String) (deleted : Bool) : List A2APushConfigEntry :=
  w.configs.map (fun entry => if entry.configId = configId then { entry with deleted } else entry)

def pending (newlyEmitted : List ℕ) (resumes : Bool) : List ℕ :=
  if resumes ∧ w.watermark ≤ w.lastSequence then
    range' (w.watermark + 1) (w.lastSequence - w.watermark)
  else newlyEmitted

def activeConfigs : List A2APushConfigEntry := w.configs.filter (!·.deleted)

def effects (events : List ℕ) : List PushEffect :=
  events.flatMap (fun sequence => w.activeConfigs.map (PushEffect.mk sequence))

def schedulePushEffectsForEvents (newlyEmitted : List ℕ) (resumes loads : Bool)
    (outcome : ℕ → BatchOutcome) : Except A2APushConfigError ℕ × PushWorld :=
  let events := w.pending newlyEmitted resumes
  match events.getLast? with
  | none => (.ok 0, w)
  | some lastSequence =>
    if !loads then (.error .persistence, w)
    else if w.activeConfigs.isEmpty then (.ok 0, { w with watermark := lastSequence })
    else
      let (answer, outbox) :=
        redrive taskId (w.effects events) outcome maxPushScheduleRedrives w.outbox
      (answer, { w with outbox, watermark := if answer.isOk then lastSequence else w.watermark })

def step : PushOp → PushWorld
  | .emit => { w with lastSequence := w.lastSequence + 1 }
  | .save configId =>
    { w with configs := if configId ∈ w.configs.map (·.configId) then w.setDeleted configId false
        else w.configs ++ [⟨configId, false, w.lastSequence⟩] }
  | .delete configId => { w with configs := w.setDeleted configId true }
  | .schedule newlyEmitted resumes loads outcome =>
    (w.schedulePushEffectsForEvents taskId newlyEmitted resumes loads outcome).2
  | .restart => { w with watermark := 0 }

def offered : PushOp → List PushEffect
  | .schedule newlyEmitted resumes _ _ => w.effects (w.pending newlyEmitted resumes)
  | _ => []

/-- The watermark is past the events before an active config, and the given events are past the
watermark. -/
def CaughtUp : PushOp → Prop
  | .schedule newlyEmitted _ _ _ =>
    (∀ entry ∈ w.activeConfigs, entry.savedAt ≤ w.watermark) ∧
      ∀ event ∈ newlyEmitted, w.watermark < event
  | _ => True

instance : ∀ op, Decidable (w.CaughtUp op)
  | .schedule .. => inferInstanceAs (Decidable (_ ∧ _))
  | .emit | .save _ | .delete _ | .restart => isTrue trivial

def SinceSaved : Prop := ∀ effect ∈ w.outbox, effect.config.savedAt < effect.sequence

/-- What scheduling some of the effects makes of an outbox. -/
structure Grown (effects outbox next : List PushEffect) : Prop where
  nodup : (outbox.map PushEffect.target).Nodup → (next.map PushEffect.target).Nodup
  mem : ∀ effect ∈ next, effect ∈ outbox ∨ effect ∈ effects

variable {taskId w} {effects outbox next last : List PushEffect} {op : PushOp} {effect : PushEffect}

lemma Grown.refl : Grown effects outbox outbox := ⟨id, fun _ => .inl⟩

lemma Grown.trans (h : Grown effects outbox next) (hlast : Grown effects next last) :
    Grown effects outbox last :=
  ⟨hlast.nodup ∘ h.nodup, fun effect he => (hlast.mem effect he).elim (h.mem effect) .inr⟩

lemma grown_scheduleEffect (h : effect ∈ effects) :
    Grown effects outbox (scheduleEffect taskId outbox effect) := by
  unfold scheduleEffect
  split_ifs with hkey
  · exact .refl
  · refine ⟨fun hnodup => ?_, forall_mem_concat (fun _ => .inl) (.inr h)⟩
    rw [map_append]
    refine pairwise_concat hnodup (fun target hmem hsame => hkey ?_)
    exact hsame ▸ mem_map_of_mem hmem

lemma grown_foldl {batch : List PushEffect} (h : batch ⊆ effects) :
    Grown effects outbox (batch.foldl (scheduleEffect taskId) outbox) :=
  foldlRecOn batch _ .refl (fun _ hgrown _ hmem => hgrown.trans (grown_scheduleEffect (h hmem)))

lemma grown_redrive (outcome : ℕ → BatchOutcome) (left : ℕ) :
    Grown effects outbox (redrive taskId effects outcome left outbox).2 := by
  induction left using Nat.strong_induction_on generalizing outbox with
  | h left ih =>
    unfold redrive
    split
    · exact grown_foldl (Subset.refl _)
    · exact (grown_foldl (take_subset _ _)).trans (ih _ (Nat.lt_succ_self _))
    · exact grown_foldl (take_subset _ _)

lemma grown_step (op : PushOp) : Grown (w.offered op) w.outbox (w.step taskId op).outbox := by
  cases op with
  | schedule newlyEmitted resumes loads outcome =>
    unfold step schedulePushEffectsForEvents
    dsimp only
    split
    · exact .refl
    split
    · exact .refl
    split
    · exact .refl
    · exact grown_redrive outcome _
  | _ => exact .refl

lemma savedAt_lt_of_offered (h : w.CaughtUp op) (heffect : effect ∈ w.offered op) :
    effect.config.savedAt < effect.sequence := by
  cases op with
  | schedule =>
    obtain ⟨sequence, hsequence, hmem⟩ := mem_flatMap.mp heffect
    obtain ⟨entry, hentry, rfl⟩ := mem_map.mp hmem
    refine (h.1 entry hentry).trans_lt ?_
    unfold pending at hsequence
    split_ifs at hsequence
    · exact (mem_range'_1.mp hsequence).1
    · exact h.2 sequence hsequence
  | _ => cases heffect

/-- Along every run an event is scheduled for a config once. While no call finds the watermark
behind, an event is never scheduled for a config that was first saved after it. -/
theorem pushed_once_and_since_saved (taskId : String) (ops : List PushOp) :
    let last := ops.foldl (step taskId) start
    (last.outbox.map PushEffect.target).Nodup ∧
      (StepsMeet (fun w op => some (step taskId w op)) CaughtUp start ops →
        last.SinceSaved) := by
  have hstep : ∀ w op, SinceSaved w → CaughtUp w op → SinceSaved (step taskId w op) :=
    fun w op h hop effect heffect =>
      ((grown_step op).mem effect heffect).elim (h effect) (savedAt_lt_of_offered hop)
  have hstart : (start.outbox.map PushEffect.target).Nodup := nodup_nil
  refine ⟨?_, foldl_invariant_of_meets hstep (fun _ h => absurd h not_mem_nil)⟩
  exact foldlRecOn (motive := fun w => (w.outbox.map PushEffect.target).Nodup) ops (step taskId)
    hstart (fun w h op _ => (grown_step op).nodup h)

/-- Saved before the first event, a config gets it once, though the batch is redriven. -/
theorem saved_first_gets_events :
    let last := [.save "hook", .emit, .schedule [1] true true (fun left =>
      if left = 3 then .fails 1 .revisionConflict else .completes)].foldl (step "task") start
    last.outbox.map PushEffect.target = [(1, "hook")] ∧ last.SinceSaved :=
  ⟨by decide +kernel, (pushed_once_and_since_saved "task" _).2 (by decide +kernel)⟩

/-- The call for the first event fails, so that the next one offers the event to a config that was
saved in between. -/
theorem failed_call_offers_event_again :
    let last := [.emit, .schedule [1] true false (fun _ => .completes), .save "hook", .emit,
      .schedule [2] true true (fun _ => .completes)].foldl (step "task") start
    last.outbox.map (fun effect => (effect.target, effect.config.savedAt)) =
      [((1, "hook"), 1), ((2, "hook"), 1)] := by
  decide +kernel

end PushWorld
end Rakka.A2A
