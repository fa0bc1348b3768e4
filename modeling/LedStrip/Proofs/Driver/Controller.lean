import LedStrip.Driver.Controller
import LedStrip.Proofs.Driver.Code
import LedStrip.Proofs.Driver.Device

/-!
# What the controller hands to the device

`leds?` follows the pointer of a channel to its array.  As long as the pointers are backed, handing
over a list of channels sets the brightness of each and copies its LEDs onto the front of the array
that its pointer leads to, and touches nothing else (`brightness_transferAll`, `leds?_transferAll`,
`transferAll_frame`).
-/

namespace LedStrip.PixelBuffer

theorem copy_of_length_zero {p : PixelBuffer} (none : p.length = 0) (words : List UInt32) :
    p.copy words = p := by
  obtain ⟨leds⟩ := p
  have empty : leds = #[] := Array.eq_empty_of_size_eq_zero none
  subst empty
  simp [copy, length]

/-- A buffer of the same length is copied as a whole. -/
theorem copy_toList {p q : PixelBuffer} (same : p.length = q.length) : p.copy q.toList = q := by
  obtain ⟨leds⟩ := p
  obtain ⟨leds'⟩ := q
  simp only [length] at same
  simp [copy, length, toList, same, List.take_of_length_le]

end LedStrip.PixelBuffer

namespace LedStrip.Driver.Controller

variable {c : Controller}

/-- The LEDs that the registers of a channel point to. -/
def leds? (c : Controller) (i : ChannelIndex) : Option PixelBuffer :=
  (c.registers.channels.get i).leds.bind c.device.array?

/-! ## One channel -/

theorem registers_transfer (c : Controller) (i j : ChannelIndex) (channel : Channel) :
    (c.transfer i channel).registers.channels.get j =
      if i = j then { (c.registers.channels.get j) with brightness := channel.brightness.toNat }
      else c.registers.channels.get j := by
  have set : (c.transfer i channel).registers.channels =
      c.registers.channels.set i
        { (c.registers.channels.get i) with brightness := channel.brightness.toNat } := by
    simp only [transfer]
    split
    · split <;> rfl
    · rfl
  rw [set, get_set]
  by_cases same : i = j
  · subst same
    rfl
  · rw [if_neg same, if_neg same]

theorem initialized_transfer (c : Controller) (i : ChannelIndex) (channel : Channel) :
    (c.transfer i channel).initialized = c.initialized := by
  simp only [transfer]
  split
  · split <;> rfl
  · rfl

theorem code_transfer (c : Controller) (i : ChannelIndex) (channel : Channel) (call : Call) :
    (c.transfer i channel).device.code call = c.device.code call := by
  simp only [transfer]
  split
  · split
    · exact c.device.code_store ..
    · rfl
  · rfl

/-- A channel that points to no LEDs has none handed over. -/
theorem device_transfer_of_leds_none {i : ChannelIndex}
    (unset : (c.registers.channels.get i).leds = none) (channel : Channel) :
    (c.transfer i channel).device = c.device := by
  simp only [transfer]
  split
  · next pointed =>
    rw [show (c.registers.channels.get i).leds = _ from pointed] at unset
    cases unset
  · rfl

/-- A channel that points to a kept array has its LEDs copied onto the front of it. -/
theorem device_transfer_of_kept {i : ChannelIndex} {h : Handle} {p : PixelBuffer}
    (pointed : (c.registers.channels.get i).leds = some h) (kept : c.device.array? h = some p)
    (length : (p.length : Int) = (c.registers.channels.get i).count) (channel : Channel) :
    (∃ arrays, (c.transfer i channel).device = { c.device with arrays := arrays }) ∧
      ∀ k, (c.transfer i channel).device.array? k =
        if k = h then some (p.copy channel.pixels.toList) else c.device.array? k := by
  simp only [transfer, pointed, ← length, Int.toNat_natCast]
  by_cases some_leds : 0 < (p.length : Int)
  · rw [if_pos some_leds]
    exact ⟨c.device.store_frame kept channel.pixels.toList,
      c.device.array?_store kept channel.pixels.toList⟩
  · rw [if_neg some_leds]
    refine ⟨⟨c.device.arrays, rfl⟩, fun k => ?_⟩
    rw [PixelBuffer.copy_of_length_zero (by omega)]
    by_cases same : k = h
    · rw [if_pos same, same]
      exact kept
    · rw [if_neg same]

theorem leds?_of_pointed {i : ChannelIndex} {h : Handle}
    (pointed : (c.registers.channels.get i).leds = some h) : c.leds? i = c.device.array? h := by
  rw [leds?, pointed, Option.bind_some]

theorem leds?_of_unset {i : ChannelIndex} (unset : (c.registers.channels.get i).leds = none) :
    c.leds? i = none := by
  rw [leds?, unset, Option.bind_none]

theorem leds_transfer (c : Controller) (i j : ChannelIndex) (channel : Channel) :
    ((c.transfer i channel).registers.channels.get j).leds = (c.registers.channels.get j).leds ∧
      ((c.transfer i channel).registers.channels.get j).count =
        (c.registers.channels.get j).count := by
  rw [registers_transfer]
  split_ifs <;> exact ⟨rfl, rfl⟩

theorem transfer_frame (backed : Backed c.registers c.device) (i : ChannelIndex)
    (channel : Channel) :
    ∃ arrays, (c.transfer i channel).device = { c.device with arrays := arrays } := by
  cases pointed : (c.registers.channels.get i).leds with
  | none => exact ⟨c.device.arrays, device_transfer_of_leds_none pointed channel⟩
  | some h =>
    obtain ⟨-, p, kept, length⟩ := backed i h pointed
    exact (device_transfer_of_kept pointed kept length channel).1

/-- Only the array of the channel that is handed over changes. -/
theorem leds?_transfer (backed : Backed c.registers c.device) (i j : ChannelIndex)
    (channel : Channel) :
    (c.transfer i channel).leds? j =
      if i = j then (c.leds? j).map (·.copy channel.pixels.toList) else c.leds? j := by
  have leds := (leds_transfer c i j channel).1
  cases pointed : (c.registers.channels.get j).leds with
  | none =>
    rw [leds?_of_unset pointed, leds?_of_unset (leds.trans pointed)]
    simp
  | some h =>
    rw [leds?_of_pointed pointed, leds?_of_pointed (leds.trans pointed)]
    obtain ⟨here, p, kept, length⟩ := backed j h pointed
    by_cases same : i = j
    · subst same
      rw [(device_transfer_of_kept pointed kept length channel).2, if_pos rfl, if_pos rfl, kept]
      rfl
    · rw [if_neg same]
      cases other : (c.registers.channels.get i).leds with
      | none => rw [device_transfer_of_leds_none other]
      | some k =>
        -- A handle names its channel, so the two arrays are not the same one.
        obtain ⟨there, q, kept', length'⟩ := backed i k other
        have apart : h ≠ k := by
          rw [here, there]
          exact fun equal => same (congrArg Handle.channel equal).symm
        rw [(device_transfer_of_kept other kept' length' channel).2, if_neg apart]

theorem backed_transfer (backed : Backed c.registers c.device) (i : ChannelIndex)
    (channel : Channel) :
    Backed (c.transfer i channel).registers (c.transfer i channel).device := by
  intro j h pointed
  obtain ⟨leds, count⟩ := leds_transfer c i j channel
  rw [leds] at pointed
  obtain ⟨here, p, kept, length⟩ := backed j h pointed
  obtain ⟨arrays, frame⟩ := transfer_frame backed i channel
  refine ⟨by rw [frame]; exact here, ?_⟩
  rw [← leds?_of_pointed (leds.trans pointed), leds?_transfer backed, count,
    leds?_of_pointed pointed, kept]
  split_ifs
  · exact ⟨_, rfl, by rw [PixelBuffer.length_copy]; exact length⟩
  · exact ⟨p, rfl, length⟩

/-! ## All channels -/

section

variable (channels : List Channel)

/-- What handing one channel over keeps, handing any number of them over keeps. -/
theorem transferAll_keeps {P : Controller → Prop}
    (keeps : ∀ c i channel, P c → P (c.transfer i channel)) {c : Controller} (holds : P c)
    (indices : List ChannelIndex) : P (c.transferAll channels indices) := by
  induction indices generalizing c with
  | nil => exact holds
  | cons i rest ih =>
    cases given : channels[i.val]? with
    | none =>
      simp only [transferAll, given]
      exact ih holds
    | some channel =>
      simp only [transferAll, given]
      exact ih (keeps c i channel holds)

theorem initialized_transferAll (c : Controller) (indices : List ChannelIndex) :
    (c.transferAll channels indices).initialized = c.initialized :=
  transferAll_keeps channels (P := fun d => d.initialized = c.initialized)
    (fun d i channel same => (initialized_transfer d i channel).trans same) rfl indices

/-- Handing channels over leaves the answers of the device alone, wherever the pointers lead. -/
theorem code_transferAll (c : Controller) (indices : List ChannelIndex) (call : Call) :
    (c.transferAll channels indices).device.code call = c.device.code call :=
  transferAll_keeps channels (P := fun d => d.device.code call = c.device.code call)
    (fun d i channel same => (code_transfer d i channel call).trans same) rfl indices

/-- Handing channels over keeps the pointers and keeps them backed; of the device, only arrays
change. -/
theorem transferAll_frame (backed : Backed c.registers c.device) (indices : List ChannelIndex) :
    Backed (c.transferAll channels indices).registers (c.transferAll channels indices).device ∧
      (∃ arrays, (c.transferAll channels indices).device = { c.device with arrays := arrays }) ∧
      ∀ j : ChannelIndex,
        ((c.transferAll channels indices).registers.channels.get j).leds =
          (c.registers.channels.get j).leds ∧
        ((c.transferAll channels indices).registers.channels.get j).count =
          (c.registers.channels.get j).count := by
  refine transferAll_keeps channels (P := fun d => Backed d.registers d.device ∧
    (∃ arrays, d.device = { c.device with arrays := arrays }) ∧
    ∀ j : ChannelIndex,
      (d.registers.channels.get j).leds = (c.registers.channels.get j).leds ∧
      (d.registers.channels.get j).count = (c.registers.channels.get j).count)
    (fun d i channel kept => ?_) ⟨backed, ⟨c.device.arrays, rfl⟩, fun j => ⟨rfl, rfl⟩⟩ indices
  obtain ⟨still, ⟨before, frame⟩, pointers⟩ := kept
  obtain ⟨arrays, changed⟩ := transfer_frame still i channel
  refine ⟨backed_transfer still i channel, ⟨arrays, by rw [changed, frame]⟩, fun j => ?_⟩
  obtain ⟨leds, count⟩ := leds_transfer d i j channel
  exact ⟨leds.trans (pointers j).1, count.trans (pointers j).2⟩

theorem brightness_transferAll (c : Controller) {indices : List ChannelIndex}
    (j : ChannelIndex) :
    ((c.transferAll channels indices).registers.channels.get j).brightness =
      if j ∈ indices then
        channels[j.val]?.elim (c.registers.channels.get j).brightness (·.brightness.toNat)
      else (c.registers.channels.get j).brightness := by
  induction indices generalizing c with
  | nil => simp [transferAll]
  | cons i rest ih =>
    cases given : channels[i.val]? with
    | none =>
      simp only [transferAll, given]
      rw [ih]
      by_cases same : i = j
      · subst same
        simp [given]
      · simp [Ne.symm same]
    | some channel =>
      simp only [transferAll, given]
      rw [ih, registers_transfer]
      by_cases same : i = j
      · subst same
        simp [given]
      · simp [same, Ne.symm same]

theorem leds?_transferAll (backed : Backed c.registers c.device) {indices : List ChannelIndex}
    (nodup : indices.Nodup) (j : ChannelIndex) :
    (c.transferAll channels indices).leds? j =
      if j ∈ indices then
        channels[j.val]?.elim (c.leds? j) fun channel =>
          (c.leds? j).map (·.copy channel.pixels.toList)
      else c.leds? j := by
  induction indices generalizing c with
  | nil => simp [transferAll]
  | cons i rest ih =>
    obtain ⟨fresh, nodup⟩ := List.nodup_cons.1 nodup
    cases given : channels[i.val]? with
    | none =>
      simp only [transferAll, given]
      rw [ih backed nodup]
      by_cases same : i = j
      · subst same
        simp [given]
      · simp [Ne.symm same]
    | some channel =>
      simp only [transferAll, given]
      rw [ih (backed_transfer backed i channel) nodup, leds?_transfer backed]
      by_cases same : i = j
      · subst same
        simp [given, fresh]
      · simp [same, Ne.symm same]

end

/-! ## Rendering -/

/-- All channels as a rendering sends them. -/
def sent (c : Controller) : List Rendered :=
  c.registers.channels.toList.map fun r =>
    ⟨r.brightness, r.leds.map fun h => (c.device.array? h).elim [] PixelBuffer.toList⟩

/-- A backed channel is sent with the whole array that it points to. -/
theorem getElem?_sent (backed : Backed c.registers c.device) (i : ChannelIndex) :
    c.sent[i.val]? =
      some ⟨(c.registers.channels.get i).brightness, (c.leds? i).map PixelBuffer.toList⟩ := by
  rw [sent, getElem?_map_toList]
  cases pointed : (c.registers.channels.get i).leds with
  | none => rw [leds?_of_unset pointed, Option.map_none, Option.map_none]
  | some h =>
    obtain ⟨-, p, kept, -⟩ := backed i h pointed
    rw [leds?_of_pointed pointed, kept]
    simp [kept]

/-- Hand over all channels that are given. -/
abbrev handOver (c : Controller) (channels : List Channel) : Controller :=
  c.transferAll channels (List.finRange channelCount)

theorem backed_handOver (backed : Backed c.registers c.device) (channels : List Channel) :
    Backed (c.handOver channels).registers (c.handOver channels).device :=
  (transferAll_frame channels backed _).1

theorem device_handOver (backed : Backed c.registers c.device) (channels : List Channel) :
    ∃ arrays, (c.handOver channels).device = { c.device with arrays := arrays } :=
  (transferAll_frame channels backed _).2.1

theorem brightness_handOver (c : Controller) (channels : Vector Channel channelCount)
    (i : ChannelIndex) : ((c.handOver channels.toList).registers.channels.get i).brightness =
      (channels.get i).brightness.toNat := by
  rw [handOver, brightness_transferAll, if_pos (List.mem_finRange i), getElem?_toList,
    Option.elim_some]

/-- The LEDs of each channel are copied onto the front of its array, if it has one. -/
theorem leds?_handOver (backed : Backed c.registers c.device)
    (channels : Vector Channel channelCount) (i : ChannelIndex) :
    (c.handOver channels.toList).leds? i =
      (c.leds? i).map (·.copy (channels.get i).pixels.toList) := by
  rw [handOver, leds?_transferAll _ backed (List.nodup_finRange _), if_pos (List.mem_finRange i),
    getElem?_toList, Option.elim_some]

theorem getElem?_sent_handOver (backed : Backed c.registers c.device)
    (channels : Vector Channel channelCount) (i : ChannelIndex) :
    (c.handOver channels.toList).sent[i.val]? =
      some ⟨(channels.get i).brightness.toNat,
        ((c.handOver channels.toList).leds? i).map PixelBuffer.toList⟩ := by
  rw [getElem?_sent (backed_handOver backed _), brightness_handOver]

/-- A rendering hands the channels over, makes one call and answers with its code. -/
theorem render_eq (backed : Backed c.registers c.device) (channels : List Channel) :
    c.render channels = .silent
      { c.handOver channels with
        device := (c.handOver channels).device.note
          (.render (c.handOver channels).sent c.device.renderCode) }
      (check .render c.device.renderCode) := by
  obtain ⟨arrays, frame⟩ := device_handOver backed channels
  have code : (c.handOver channels).device.renderCode = c.device.renderCode := by rw [frame]
  rw [← code]
  rfl

theorem result_render (c : Controller) (channels : List Channel) :
    (c.render channels).result = check .render c.device.renderCode :=
  congrArg (check .render) (code_transferAll channels c _ .render)

theorem calls_render (backed : Backed c.registers c.device) (channels : List Channel) :
    (c.render channels).state.device.calls =
      c.device.calls ++ [.render (c.handOver channels).sent c.device.renderCode] := by
  obtain ⟨arrays, frame⟩ := device_handOver backed channels
  rw [render_eq backed]
  change (c.handOver channels).device.calls ++ _ = _
  rw [frame]

theorem backed_render (backed : Backed c.registers c.device) (channels : List Channel) :
    Backed (c.render channels).state.registers (c.render channels).state.device := by
  rw [render_eq backed]
  exact (backed_handOver backed channels).keep rfl rfl

theorem codes_render (c : Controller) (channels : List Channel) :
    (c.render channels).state.device.renderCode = c.device.renderCode ∧
      (c.render channels).state.device.waitCode = c.device.waitCode :=
  ⟨code_transferAll channels c _ .render, code_transferAll channels c _ .wait⟩

/-! ## Setting up -/

variable {config : StripConfig}

/-- Counts that do not fit are refused before the device is called. -/
theorem init_of_refused {e : Error} (refused : (c.registers.load config).2 = .error e) :
    c.init config = .silent { c with registers := (c.registers.load config).1 } (.error e) := by
  simp only [init, refused]

theorem init_of_failed (loaded : (c.registers.load config).2 = .ok ())
    (failed : c.device.initCode ≠ 0) :
    c.init config = .silent
      { c with
        registers := .of config
        device := c.device.note (.init (.of config) c.device.initCode) }
      (check .init c.device.initCode) := by
  have called : c.device.init (.of config) =
      (c.device.initCode, c.device.note (.init (.of config) c.device.initCode), .of config) :=
    if_neg failed
  simp only [init, loaded, Registers.load_of_ok loaded, called, check_of_ne_zero failed]

/-- The device in a set-up that succeeds, just before it makes the LEDs. -/
def started (c : Controller) (config : StripConfig) : Device :=
  { c.device with
    generation := c.device.generation + 1
    calls := c.device.calls ++ [.init (.of config) 0] }

theorem init_eq_of_done (loaded : (c.registers.load config).2 = .ok ())
    (done : c.device.initCode = 0) :
    let made := (c.started config).allocateAll (.of config) (List.finRange channelCount)
    c.init config =
      ⟨⟨made.2, true, made.1⟩, .ok (), [.driverReady config.freq config.dma]⟩ := by
  intro made
  have called : c.device.init (.of config) = (0, made.1, made.2) := by
    refine (if_pos done).trans ?_
    rw [done]
    rfl
  have fine : check .init 0 = .ok () := (check_eq_ok_iff ..).2 rfl
  simp only [init, loaded, Registers.load_of_ok loaded, called, fine]

/-- A set-up that succeeds makes LEDs for every channel, all off, as many as the device allots. -/
theorem init_of_done (loaded : (c.registers.load config).2 = .ok ())
    (done : c.device.initCode = 0) :
    (c.init config).result = .ok () ∧
      (c.init config).state.initialized = true ∧
      (∃ arrays, (c.init config).state.device = { c.started config with arrays := arrays }) ∧
      ∀ i : ChannelIndex,
        (c.init config).state.registers.channels.get i =
          ((Registers.of config).channels.get i).allotted ⟨c.device.generation + 1, i⟩
            (c.device.allotment (.of config) i) ∧
        (c.init config).state.leds? i =
          (c.device.allotment (.of config) i).map PixelBuffer.blank := by
  rw [init_eq_of_done loaded done]
  refine ⟨rfl, rfl, Device.allocateAll_frame .., fun i => ?_⟩
  have registers := Device.channels_allocateAll (c.started config) (.of config)
    (List.nodup_finRange channelCount) i
  rw [if_pos (List.mem_finRange i)] at registers
  have array := Device.array?_allocateAll (c.started config) (.of config)
    (List.nodup_finRange channelCount) ⟨c.device.generation + 1, i⟩
  rw [if_pos ⟨rfl, List.mem_finRange i⟩] at array
  have same : (c.started config).allotment (.of config) i = c.device.allotment (.of config) i := rfl
  rw [same] at registers array
  refine ⟨registers, ?_⟩
  have pointed := congrArg ChannelRegisters.leds registers
  cases size : c.device.allotment (.of config) i with
  | none =>
    rw [size] at pointed
    exact leds?_of_unset (pointed.trans (Registers.leds_of config i))
  | some n =>
    rw [size] at pointed array
    exact (leds?_of_pointed pointed).trans array

/-- A valid configuration is never refused by the controller itself. -/
theorem result_init_of_valid (valid : config.validate = .ok ()) (c : Controller) :
    (c.init config).result = check .init c.device.initCode := by
  have loaded := Registers.result_load_of_valid valid c.registers
  by_cases done : c.device.initCode = 0
  · rw [(init_of_done loaded done).1, done]
    rfl
  · rw [init_of_failed loaded done]
    rfl

/-- Setting up keeps the pointers backed, however far it gets. -/
theorem backed_init (backed : Backed c.registers c.device) (config : StripConfig) :
    Backed (c.init config).state.registers (c.init config).state.device := by
  cases loaded : (c.registers.load config).2 with
  | error e =>
    rw [init_of_refused loaded]
    exact backed.weaken (c.registers.leds_load config) rfl rfl
  | ok =>
    by_cases done : c.device.initCode = 0
    · obtain ⟨-, -, ⟨arrays, frame⟩, made⟩ := init_of_done loaded done
      intro i h pointed
      obtain ⟨registers, leds⟩ := made i
      rw [← leds?_of_pointed pointed, leds, frame, started]
      rw [registers] at pointed ⊢
      cases size : c.device.allotment (.of config) i with
      | none =>
        rw [size] at pointed
        cases pointed.symm.trans (Registers.leds_of config i)
      | some n =>
        rw [size] at pointed
        exact ⟨(Option.some.inj pointed).symm, .blank n, rfl, by simp [ChannelRegisters.allotted]⟩
    · rw [init_of_failed loaded done]
      exact .of_leds_none (Registers.leds_of config)

end LedStrip.Driver.Controller
