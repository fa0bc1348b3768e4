import LedStrip.Proofs.Driver.Controller

/-!
# Pointers to LEDs

A controller on its own, used in any order, with a device that may answer each call as it likes and
make as many LEDs as it likes.  Two things are kept in every use:

* the pointers lead to arrays that the device keeps and that are as long as the registers say
  (`Sound.backed`), so a store is never a fault;
* the controller knows whether the device is set up (`Sound.told`), so it releases it exactly
  once after each set-up that succeeded (`FinisPaired`).
-/

namespace LedStrip.Driver

/-! ## What the calls tell -/

/-- Whether the device is set up after a call, given whether it was before. -/
def Record.settle (up : Bool) : Record → Bool
  | .init _ code => up || code == 0
  | .fini => false
  | .render .. | .wait _ => up

/-- Whether some set-up of these calls succeeded and no release came after it. -/
def isSetUp (calls : List Record) : Bool := calls.foldl Record.settle false

/-- A set-up that succeeded. -/
def Record.isDone : Record → Bool
  | .init _ code => code == 0
  | _ => false

/-- A release comes only when some set-up succeeded since the release before it. -/
def FinisPaired (calls : List Record) : Prop :=
  ∀ before after, calls = before ++ .fini :: after → isSetUp before = true

theorem isSetUp_append (calls : List Record) (r : Record) :
    isSetUp (calls ++ [r]) = r.settle (isSetUp calls) := by
  simp [isSetUp, List.foldl_append]

theorem Record.settle_false {r : Record} (kind : r.isDone = false) : r.settle false = false := by
  cases r with
  | init registers code => simpa [settle, isDone] using kind
  | render channels code => rfl
  | wait code => rfl
  | fini => rfl

theorem Record.settle_true {r : Record} (other : r ≠ .fini) : r.settle true = true := by
  cases r with
  | init registers code => rfl
  | render channels code => rfl
  | wait code => rfl
  | fini => exact absurd rfl other

theorem FinisPaired.append {calls : List Record} (paired : FinisPaired calls) {r : Record}
    (ready : r = .fini → isSetUp calls = true) : FinisPaired (calls ++ [r]) := by
  intro before after split
  -- Either the release is the call that is added, or it was there before.
  rcases List.eq_nil_or_concat after with nil | ⟨rest, last, concat⟩
  · subst nil
    obtain ⟨same, fini⟩ := List.append_inj' split rfl
    rw [← same]
    exact ready (List.singleton_inj.1 fini)
  · subst concat
    rw [List.concat_eq_append, ← List.cons_append, ← List.append_assoc] at split
    exact paired before rest (List.append_inj' split rfl).1

/-- The calls so far tell whether the device is set up and how many set-ups succeeded. -/
structure Told (up : Bool) (generation : Nat) (calls : List Record) : Prop where
  tracked : up = isSetUp calls
  paired : FinisPaired calls
  numbered : generation = calls.countP Record.isDone

theorem Told.append {up : Bool} {generation : Nat} {calls : List Record}
    (told : Told up generation calls) {r : Record} (ready : r = .fini → up = true) :
    Told (r.settle up) (generation + r.isDone.toNat) (calls ++ [r]) where
  tracked := by rw [isSetUp_append, ← told.tracked]
  paired := told.paired.append fun release => told.tracked ▸ ready release
  numbered := by
    rw [List.countP_append, ← told.numbered, List.countP_singleton]
    cases r.isDone <;> rfl

/-- Without a set-up that succeeds there is nothing to release. -/
theorem count_fini_of_not_isSetUp {before after : List Record} (down : isSetUp before = false)
    (last : ∀ r ∈ after, r.isDone = false) (paired : FinisPaired (before ++ after)) :
    after.count .fini = 0 := by
  induction after generalizing before with
  | nil => rfl
  | cons r rest ih =>
    have regroup : before ++ r :: rest = (before ++ [r]) ++ rest := by simp
    have other : r ≠ .fini := by
      rintro rfl
      rw [paired before rest rfl] at down
      cases down
    have still : isSetUp (before ++ [r]) = false := by
      rw [isSetUp_append, down]
      exact Record.settle_false (last r (List.mem_cons_self ..))
    rw [List.count_cons_of_ne other]
    exact ih still (fun s hs => last s (List.mem_cons_of_mem _ hs)) (regroup ▸ paired)

/-- A set-up that was released in the end was released exactly once. -/
theorem count_fini_of_isSetUp {before after : List Record} (up : isSetUp before = true)
    (last : ∀ r ∈ after, r.isDone = false) (paired : FinisPaired (before ++ after))
    (done : isSetUp (before ++ after) = false) : after.count .fini = 1 := by
  induction after generalizing before with
  | nil =>
    rw [List.append_nil, up] at done
    cases done
  | cons r rest ih =>
    have regroup : before ++ r :: rest = (before ++ [r]) ++ rest := by simp
    have later : ∀ s ∈ rest, s.isDone = false := fun s hs => last s (List.mem_cons_of_mem _ hs)
    by_cases release : r = .fini
    -- From this release on the device is down, and no set-up brings it up again.
    · subst release
      have down : isSetUp (before ++ [.fini]) = false := isSetUp_append before .fini
      rw [List.count_cons_self, count_fini_of_not_isSetUp down later (regroup ▸ paired)]
    · have still : isSetUp (before ++ [r]) = true := by
        rw [isSetUp_append, up]
        exact Record.settle_true release
      rw [List.count_cons_of_ne release]
      exact ih still later (regroup ▸ paired) (regroup ▸ done)

/-! ## Uses of a controller -/

/-- How a device behaves: the codes it answers with, and how many LEDs it makes. -/
structure Behaviour where
  initCode : Int32
  renderCode : Int32
  waitCode : Int32
  allocation : Vector Allocation channelCount

/-- The device with another behaviour from now on. -/
def Device.behaving (d : Device) (b : Behaviour) : Device :=
  { d with
    initCode := b.initCode
    renderCode := b.renderCode
    waitCode := b.waitCode
    allocation := b.allocation }

namespace Controller

/-- What can happen to a controller that no strip owns. -/
inductive Act where
  /-- Set up for a configuration, which need not be valid. -/
  | init (config : StripConfig)
  | render (channels : List Channel)
  | wait
  | fini
  | drop
  /-- From outside: the device behaves in another way from now on. -/
  | behave (b : Behaviour)

/-- Do one thing. -/
def act (c : Controller) : Act → Controller
  | .init config => (Backend.init config c).state
  | .render channels => (Backend.render channels c).state
  | .wait => (Backend.wait c).state
  | .fini => (Backend.fini c).state
  | .drop => (Backend.discard c).state
  | .behave b => { c with device := c.device.behaving b }

/-- Do one thing after the other. -/
def acts (c : Controller) (as : List Act) : Controller := as.foldl act c

/-- What is true of a controller however it is used. -/
structure Sound (c : Controller) : Prop where
  backed : Backed c.registers c.device
  /-- Without a set-up there are no pointers. -/
  unset : c.initialized = false → ∀ i : ChannelIndex, (c.registers.channels.get i).leds = none
  faultless : c.device.faults = 0
  told : Told c.initialized c.device.generation c.device.calls

theorem sound_of (b : Behaviour) : Sound (of (Device.fresh.behaving b)) where
  backed := .of_leds_none Registers.leds_blank
  unset _ := Registers.leds_blank
  faultless := rfl
  told := ⟨rfl, fun before after split => by simp [of, Device.behaving, Device.fresh] at split, rfl⟩

variable {c : Controller}

theorem sound_init (sound : Sound c) (config : StripConfig) : Sound (c.init config).state := by
  have backed := backed_init sound.backed config
  cases loaded : (c.registers.load config).2 with
  | error e =>
    rw [init_of_refused loaded] at backed ⊢
    refine { sound with backed := backed, unset := fun down i => ?_ }
    rcases c.registers.leds_load config i with unset | ⟨leds, -⟩
    · exact unset
    · exact leds.trans (sound.unset down i)
  | ok =>
    have told := sound.told.append (r := .init (.of config) c.device.initCode) (by simp)
    by_cases done : c.device.initCode = 0
    · obtain ⟨-, up, ⟨arrays, frame⟩, -⟩ := init_of_done loaded done
      refine ⟨backed, fun down => ?_, ?_, ?_⟩
      · rw [up] at down
        cases down
      · rw [frame]
        exact sound.faultless
      · rw [up, frame]
        simpa [Record.settle, Record.isDone, done, started] using told
    · rw [init_of_failed loaded done] at backed ⊢
      refine ⟨backed, fun _ => Registers.leds_of config, sound.faultless, ?_⟩
      simp only [Record.settle, Record.isDone, beq_false_of_ne done, Bool.or_false] at told
      exact told

theorem sound_render (sound : Sound c) (channels : List Channel) :
    Sound (c.render channels).state := by
  obtain ⟨-, -, pointers⟩ :=
    transferAll_frame channels sound.backed (List.finRange channelCount)
  obtain ⟨arrays, frame⟩ := device_handOver sound.backed channels
  have initialized := initialized_transferAll channels c (List.finRange channelCount)
  rw [render_eq sound.backed]
  refine ⟨(backed_handOver sound.backed channels).keep rfl rfl, fun down i => ?_, ?_, ?_⟩
  · exact (pointers i).1.trans (sound.unset (initialized ▸ down) i)
  · change (c.handOver channels).device.faults = 0
    rw [frame]
    exact sound.faultless
  · change Told (c.handOver channels).initialized (c.handOver channels).device.generation
      ((c.handOver channels).device.calls ++ [_])
    rw [initialized, frame]
    exact sound.told.append (r := .render _ _) (by simp)

theorem sound_wait (sound : Sound c) : Sound c.wait.state where
  backed := sound.backed.keep rfl rfl
  unset := sound.unset
  faultless := sound.faultless
  told := sound.told.append (r := .wait c.device.waitCode) (by simp)

theorem sound_fini (sound : Sound c) : Sound c.fini.state := by
  unfold fini
  by_cases up : c.initialized = true
  · rw [if_pos up]
    refine ⟨.of_leds_none c.registers.leds_forget, fun _ => c.registers.leds_forget,
      sound.faultless, ?_⟩
    exact sound.told.append (r := .fini) fun _ => up
  · rw [if_neg up]
    exact sound

theorem initialized_fini (c : Controller) : c.fini.state.initialized = false := by
  unfold fini
  by_cases up : c.initialized = true
  · rw [if_pos up]
  · rw [if_neg up]
    exact Bool.eq_false_iff.2 up

theorem sound_act (sound : Sound c) (a : Act) : Sound (c.act a) := by
  cases a with
  | init config => exact sound_init sound config
  | render channels => exact sound_render sound channels
  | wait => exact sound_wait sound
  | fini => exact sound_fini sound
  | drop => exact sound_fini sound
  | behave b =>
    exact ⟨sound.backed.keep rfl rfl, sound.unset, sound.faultless, sound.told⟩

theorem sound_acts (sound : Sound c) (as : List Act) : Sound (c.acts as) := by
  induction as generalizing c with
  | nil => exact sound
  | cons a rest ih => exact ih (sound_act sound a)

/-- While the device is not set up, handing channels over changes nothing of it. -/
theorem device_transferAll_of_unset
    (unset : ∀ i : ChannelIndex, (c.registers.channels.get i).leds = none) (channels : List Channel)
    (indices : List ChannelIndex) : (c.transferAll channels indices).device = c.device := by
  refine (transferAll_keeps channels (P := fun d => d.device = c.device ∧
    ∀ i : ChannelIndex, (d.registers.channels.get i).leds = none)
    (fun d i channel kept => ?_) ⟨rfl, unset⟩ indices).1
  obtain ⟨same, unset'⟩ := kept
  exact ⟨(device_transfer_of_leds_none (unset' i) channel).trans same,
    fun j => (leds_transfer d i j channel).1.trans (unset' j)⟩

/-- However a controller is used and however its device behaves: a pointer leads to an array of the
last set-up that succeeded, which was not released since and is as long as the registers say; a
rendering stores only in such arrays, and in none while the device is not set up; a release comes
only after a set-up; and when the controller is dropped, its last set-up was released once. -/
theorem pointers_live (b : Behaviour) (as : List Act) :
    let c := (of (Device.fresh.behaving b)).acts as
    (∀ (i : ChannelIndex) (h : Handle), (c.registers.channels.get i).leds = some h →
      isSetUp c.device.calls = true ∧ h = ⟨c.device.calls.countP Record.isDone, i⟩ ∧
      ∃ p, c.device.array? h = some p ∧ (p.length : Int) = (c.registers.channels.get i).count) ∧
    (∀ channels : List Channel, (c.render channels).state.device.faults = 0 ∧
      (isSetUp c.device.calls = false →
        (c.render channels).state.device.arrays = c.device.arrays)) ∧
    FinisPaired c.device.calls ∧
    ∀ before registers after, (c.act .drop).device.calls = before ++ .init registers 0 :: after →
      (∀ r ∈ after, r.isDone = false) → after.count .fini = 1 := by
  intro c
  have sound : Sound c := sound_acts (sound_of b) as
  refine ⟨fun i h pointed => ?_, fun channels => ⟨?_, fun down => ?_⟩, sound.told.paired, ?_⟩
  · obtain ⟨here, kept⟩ := sound.backed i h pointed
    refine ⟨?_, sound.told.numbered ▸ here, kept⟩
    rw [← sound.told.tracked]
    cases up : c.initialized with
    | true => rfl
    | false =>
      rw [sound.unset up i] at pointed
      cases pointed
  · exact (sound_render sound channels).faultless
  · rw [render_eq sound.backed]
    change (c.handOver channels).device.arrays = _
    rw [device_transferAll_of_unset (sound.unset (sound.told.tracked.trans down))]
  · intro before registers after split last
    have dropped : Sound (c.act .drop) := sound_act sound .drop
    have regroup :
        before ++ .init registers 0 :: after = (before ++ [.init registers 0]) ++ after := by
      simp
    rw [regroup] at split
    have up : isSetUp (before ++ [.init registers 0]) = true := by
      rw [isSetUp_append]
      simp [Record.settle]
    have done : isSetUp (c.act .drop).device.calls = false := by
      rw [← dropped.told.tracked]
      exact initialized_fini c
    exact count_fini_of_isSetUp up last (split ▸ dropped.told.paired) (split ▸ done)

/-- A set-up that is refused half way drops the pointer of the first channel and keeps the array of
the second. -/
theorem pointers_live_half_way :
    let good : StripConfig :=
      ⟨800000, 10, #v[⟨18, false, 2, 255, .grb⟩, ⟨13, true, 1, 200, .rgbw⟩]⟩
    let large : StripConfig :=
      ⟨800000, 10, #v[⟨18, false, 2, 255, .grb⟩, ⟨13, true, 2147483648, 200, .rgbw⟩]⟩
    let fresh := of (Device.fresh.behaving ⟨0, 0, 0, #v[.exactly 5, .requested]⟩)
    let c := fresh.acts [.init good, .init large]
    (∃ p, c.device.array? ⟨1, 1⟩ = some p ∧
      (p.length : Int) = (c.registers.channels.get (1 : ChannelIndex)).count) ∧
    (fresh.render [default]).state.device.arrays = fresh.device.arrays ∧
    [Record.fini].count .fini = 1 := by
  intro good large fresh c
  have live := pointers_live ⟨0, 0, 0, #v[.exactly 5, .requested]⟩ [.init good, .init large]
  have idle := pointers_live ⟨0, 0, 0, #v[.exactly 5, .requested]⟩ []
  refine ⟨(live.1 1 ⟨1, 1⟩ (by decide)).2.2, (idle.2.1 [default]).2 rfl, ?_⟩
  refine live.2.2.2 [] ⟨800000, 10, #v[⟨18, 0, 2, 255, 0x081000, none⟩,
    ⟨13, 1, 1, 200, 0x18100800, none⟩]⟩ [.fini] ?_ (by decide)
  decide

end Controller

end LedStrip.Driver
