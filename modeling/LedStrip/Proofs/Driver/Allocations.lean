import LedStrip.Proofs.Driver.Calls
import LedStrip.Proofs.Strip.Twins

/-!
# Arrays of other sizes

The device may make more LEDs for a channel than it is asked for, or fewer, or none.  Then its array
holds the front of what was handed over last, and zeros behind it; every rendering keeps that, also
one that fails (`Fitted.render`).  A strip sees nothing of it: it does and returns the same on such a
device and on one that makes what is asked for (`Alike.twins`).
-/

namespace LedStrip

namespace PixelBuffer

/-- Of words that are copied onto the front nothing is left once as many others are. -/
theorem copy_copy {words others : List UInt32} (covered : words.length ≤ others.length)
    (p : PixelBuffer) : (p.copy words).copy others = p.copy others := by
  apply ext_word?
  intro i
  rw [word?_copy, word?_copy, word?_copy, length_copy]
  split_ifs with first second
  · rfl
  · omega
  · rfl

theorem copy_nil (p : PixelBuffer) : p.copy [] = p := by
  apply ext_word?
  intro i
  rw [word?_copy, if_neg (by simp)]

theorem toList_copy_blank (n : Nat) (words : List UInt32) :
    ((blank n).copy words).toList = words.take n ++ List.replicate (n - words.length) 0 := by
  have rest : n - min words.length n = n - words.length := by omega
  simp [copy, blank, length, toList, rest]

end PixelBuffer

namespace Driver

namespace Controller

/-- For each channel the array that its pointer leads to, if there is one, has this size.  On its
front are as many words as the channel has LEDs, or as many of them as fit; all others are zero. -/
structure Fitted (size : ChannelIndex → Option Nat) (count : ChannelIndex → Nat) (c : Controller) :
    Prop where
  up : Up c
  held : ∀ i, ∃ words : List UInt32, words.length ≤ count i ∧
    c.leds? i = (size i).map fun n => (PixelBuffer.blank n).copy words

namespace Fitted

variable {size : ChannelIndex → Option Nat} {count : ChannelIndex → Nat} {c : Controller}
  {channels : Vector Channel channelCount}

/-- Of what was handed over before, nothing is left. -/
theorem leds?_handOver (fitted : Fitted size count c)
    (rows : ∀ i, (channels.get i).pixels.length = count i) (i : ChannelIndex) :
    (c.handOver channels.toList).leds? i =
      (size i).map fun n => (PixelBuffer.blank n).copy (channels.get i).pixels.toList := by
  obtain ⟨words, few, held⟩ := fitted.held i
  have covered : words.length ≤ (channels.get i).pixels.toList.length :=
    few.trans (rows i).ge
  rw [Controller.leds?_handOver fitted.up.backed, held, Option.map_map]
  refine congrArg (Option.map · (size i)) (funext fun n => ?_)
  exact PixelBuffer.copy_copy covered _

/-- A rendering sends each array with the current LEDs on its front. -/
theorem getElem?_sent (fitted : Fitted size count c)
    (rows : ∀ i, (channels.get i).pixels.length = count i) (i : ChannelIndex) :
    (c.handOver channels.toList).sent[i.val]? =
      some ⟨(channels.get i).brightness.toNat, (size i).map fun n =>
        (channels.get i).pixels.toList.take n ++ List.replicate (n - count i) 0⟩ := by
  have length : (channels.get i).pixels.toList.length = count i := rows i
  rw [getElem?_sent_handOver fitted.up.backed, fitted.leds?_handOver rows, Option.map_map, ← length]
  simp only [Function.comp_def, PixelBuffer.toList_copy_blank]

theorem render (fitted : Fitted size count c)
    (rows : ∀ i, (channels.get i).pixels.length = count i) :
    Fitted size count (c.render channels.toList).state := by
  refine ⟨up_render fitted.up _, fun i => ⟨(channels.get i).pixels.toList, (rows i).le, ?_⟩⟩
  rw [render_eq fitted.up.backed]
  exact fitted.leds?_handOver rows i

theorem answerWith (fitted : Fitted size count c) (call : Call) (code : Int32) :
    Fitted size count (Scripted.answerWith call code c) := by
  have up := (calls_answerWith fitted.up call code).1
  cases call <;> exact ⟨up, fitted.held⟩

end Fitted

end Controller

open Controller

/-! ## Two devices -/

/-- Strips to which the same happened, the first on a device that makes arrays of these sizes. -/
structure Alike (size : ChannelIndex → Option Nat) (count : ChannelIndex → Nat)
    (s t : Strip Controller) : Prop where
  face : s.face = t.face
  rows : ∀ i, (s.channels.get i).pixels.length = count i
  fitted : s.backend.Fitted size count
  backed : Backed t.backend.registers t.backend.device
  renderCode : s.backend.device.renderCode = t.backend.device.renderCode
  waitCode : s.backend.device.waitCode = t.backend.device.waitCode

namespace Alike

variable {size : ChannelIndex → Option Nat} {count : ChannelIndex → Nat} {s t : Strip Controller}

theorem render (alike : Alike size count s t) :
    s.render.result = t.render.result ∧ Alike size count s.render.state t.render.state := by
  have result := result_render s.backend s.channels.toList
  have result' := result_render t.backend t.channels.toList
  obtain ⟨renderCode, waitCode⟩ := codes_render s.backend s.channels.toList
  obtain ⟨renderCode', waitCode'⟩ := codes_render t.backend t.channels.toList
  constructor
  · rw [alike.renderCode] at result
    exact result.trans result'.symm
  · refine ⟨alike.face, alike.rows, alike.fitted.render alike.rows, ?_, ?_, ?_⟩
    · exact backed_render alike.backed t.channels.toList
    · exact renderCode.trans (alike.renderCode.trans renderCode'.symm)
    · exact waitCode.trans (alike.waitCode.trans waitCode'.symm)

/-- No moves tell the two strips apart. -/
theorem twins : Strip.Twins (Alike size count) where
  face := face
  redrawn alike same backend backend' lengths := by
    obtain ⟨-, rows, fitted, backed, renderCode, waitCode⟩ := alike
    rw [← backend] at fitted renderCode waitCode
    rw [← backend'] at backed renderCode waitCode
    exact ⟨same, fun i => (lengths i).trans (rows i), fitted, backed, renderCode, waitCode⟩
  render := render
  wait alike := by
    obtain ⟨face, rows, ⟨up, held⟩, backed, renderCode, waitCode⟩ := alike
    exact ⟨congrArg (check .wait) waitCode, face, rows, ⟨up_wait up, held⟩,
      backed.keep rfl rfl, renderCode, waitCode⟩
  answerWith call code alike := by
    obtain ⟨face, rows, fitted, backed, renderCode, waitCode⟩ := alike
    have fitted' := fitted.answerWith call code
    cases call with
    | init => exact ⟨face, rows, fitted', backed.keep rfl rfl, renderCode, waitCode⟩
    | render => exact ⟨face, rows, fitted', backed.keep rfl rfl, rfl, waitCode⟩
    | wait => exact ⟨face, rows, fitted', backed.keep rfl rfl, renderCode, rfl⟩

/-- A rendering sends each array with the current LEDs, cut to its size or followed by zeros. -/
theorem calls_perform (alike : Alike size count s t) (m : Strip.Move) :
    ∃ made, (s.perform m).state.backend.device.calls = s.backend.device.calls ++ made ∧
      made.map Record.call? = m.call?.toList.map some ∧
      ∀ rendered code, .render rendered code ∈ made → ∀ i : ChannelIndex,
        rendered[i.val]? = some ⟨(s.channels.get i).brightness.toNat, (size i).map fun n =>
          (s.channels.get i).pixels.toList.take n ++ List.replicate (n - count i) 0⟩ := by
  obtain ⟨-, made, calls, ⟨kinds, sent⟩⟩ := Controller.calls_perform alike.fitted.up m
  refine ⟨made, calls, kinds, fun rendered code mem i => ?_⟩
  rw [sent mem]
  exact alike.fitted.getElem?_sent alike.rows i

/-- What is set up with success on devices that answer alike is alike. -/
theorem blank {config : StripConfig} (valid : config.validate = .ok ()) (active : ChannelIndex)
    {b b' : Behaviour} (done : b.initCode = 0) (done' : b'.initCode = 0)
    (render : b.renderCode = b'.renderCode) (wait : b.waitCode = b'.waitCode) :
    let count (i : ChannelIndex) := (config.channels.get i).count.toNat
    Alike (fun i => Device.Allocation.size? (b.allocation.get i) (count i)) count
      (.blank config active ((of (Device.fresh.behaving b)).init config).state)
      (.blank config active ((of (Device.fresh.behaving b')).init config).state) := by
  intro count
  have loaded (b : Behaviour) : ((of (Device.fresh.behaving b)).registers.load config).2 = .ok () :=
    Registers.result_load_of_valid valid _
  obtain ⟨-, initialized, ⟨arrays, frame⟩, made⟩ := init_of_done (loaded b) done
  obtain ⟨-, -, ⟨arrays', frame'⟩, -⟩ := init_of_done (loaded b') done'
  refine ⟨rfl, fun i => ?_, ⟨?_, fun i => ⟨[], Nat.zero_le _, ?_⟩⟩, ?_, ?_, ?_⟩
  · simp [count, Strip.blank, Channel.blank]
  · exact ⟨backed_init (sound_of b).backed config, initialized⟩
  · have size : (of (Device.fresh.behaving b)).device.allotment (.of config) i =
        Device.Allocation.size? (b.allocation.get i) (count i) := by
      simp [count, Device.allotment, Registers.of, ChannelRegisters.of, of, Device.behaving]
    refine (made i).2.trans ?_
    rw [size]
    simp only [PixelBuffer.copy_nil]
  · exact backed_init (sound_of b').backed config
  · refine (congrArg Device.renderCode frame).trans ?_
    exact render.trans (congrArg Device.renderCode frame').symm
  · refine (congrArg Device.waitCode frame).trans ?_
    exact wait.trans (congrArg Device.waitCode frame').symm

end Alike

/-- How many LEDs the device makes is seen by nobody but the device.  Whatever arrays it makes, of
other sizes than asked for or none: a strip is set up on it if and only if it is on a device that
makes what is asked for, with the same error if not; all moves return the same on both and leave
the same strip, whose rows are as long as the configuration says.  The device is called by no moves
but those that lead to a call.  Each rendering, whether those before it failed or not, sends it for
every channel the current brightness and, if the channel has an array, that array in its own size:
the current LEDs as far as they fit, and behind them zeros. -/
theorem allocations_unseen (config : StripConfig) (b : Behaviour) (moves : List Strip.Move) :
    let usual : Behaviour := { b with allocation := .replicate _ .requested }
    let count (i : ChannelIndex) := (config.channels.get i).count.toNat
    let size (i : ChannelIndex) := Device.Allocation.size? (b.allocation.get i) (count i)
    match (Strip.create config (of (Device.fresh.behaving b))).result,
      (Strip.create config (of (Device.fresh.behaving usual))).result with
    | .error e, .error e' => e = e'
    | .ok s, .ok t =>
      (s.run moves).result = (t.run moves).result ∧
      (s.run moves).state.face = (t.run moves).state.face ∧
      (∀ i, ((s.run moves).state.channels.get i).pixels.length = count i) ∧
      ∀ before m after, moves = before ++ m :: after →
        let driven := (s.run before).state
        ∃ made,
          (driven.perform m).state.backend.device.calls = driven.backend.device.calls ++ made ∧
          made.map Record.call? = m.call?.toList.map some ∧
          ∀ rendered code, .render rendered code ∈ made → ∀ i : ChannelIndex,
            let channel := driven.channels.get i
            rendered[i.val]? = some ⟨channel.brightness.toNat, (size i).map fun n =>
              channel.pixels.toList.take n ++ List.replicate (n - count i) 0⟩
    | _, _ => False := by
  intro usual count size
  cases valid : config.validate with
  | error e =>
    rw [Strip.create_of_invalid valid, Strip.create_of_invalid valid]
    rfl
  | ok =>
    obtain ⟨active, first⟩ := StripConfig.exists_firstUsed_of_valid valid
    have created (b : Behaviour) : (Strip.create config (of (Device.fresh.behaving b))).result =
        (check .init b.initCode).map fun _ =>
          .blank config active ((of (Device.fresh.behaving b)).init config).state := by
      have answer := result_init_of_valid valid (of (Device.fresh.behaving b))
      exact (Strip.create_of_valid valid first _).2.trans (congrArg _ answer)
    rw [created, created]
    by_cases done : b.initCode = 0
    · have fine : check .init b.initCode = .ok () := (check_eq_ok_iff ..).2 done
      rw [fine]
      change _ ∧ _ ∧ _ ∧ _
      have done' : usual.initCode = 0 := done
      have alike := Alike.blank valid active done done' rfl rfl
      obtain ⟨result, still⟩ := Alike.twins.run alike moves
      refine ⟨result, still.face, still.rows, fun before m after _ => ?_⟩
      exact (Alike.twins.run alike before).2.calls_perform m
    · have failed := check_of_ne_zero done .init
      rw [failed]
      rfl

/-- After a rendering that failed, the next one sends three LEDs to the array with room for three,
and only the brightness of the channel that has no array. -/
theorem allocations_unseen_short :
    let config := StripConfig.single 5 18
    let b : Behaviour := ⟨0, 0, 0, #v[.exactly 3, .refused]⟩
    let before : List Strip.Move :=
      [.ask (.write (.fill (.rgb 1 2 3))), .answer .render (-1), .ask .show,
        .ask (.write (.setWord 2 9)), .ask (.brightness 7)]
    ∃ s, (Strip.create config (of (Device.fresh.behaving b))).result = .ok s ∧
      ∃ rendered code,
        ((s.run before).state.perform (.ask .show)).state.backend.device.calls =
          (s.run before).state.backend.device.calls ++ [.render rendered code] ∧
        rendered[0]? = some ⟨7, some [0x010203, 0x010203, 9]⟩ ∧
        rendered[1]? = some ⟨255, none⟩ := by
  intro config b before
  have unseen := allocations_unseen config b (before ++ [.ask .show])
  have created (b : Behaviour) (done : b.initCode = 0) :
      (Strip.create config (of (Device.fresh.behaving b))).result =
      .ok (.blank config 0 ((of (Device.fresh.behaving b)).init config).state) := by
    have answer : ((of (Device.fresh.behaving b)).init config).result = .ok () := by
      rw [result_init_of_valid rfl]
      exact (check_eq_ok_iff ..).2 done
    exact (Strip.create_of_valid rfl rfl _).2.trans (congrArg _ answer)
  dsimp only at unseen
  rw [created b rfl, created _ rfl] at unseen
  obtain ⟨-, -, -, each⟩ := unseen
  obtain ⟨made, calls, kinds, sent⟩ := each before (.ask .show) [] rfl
  obtain ⟨r, rfl, kind⟩ := List.map_eq_singleton_iff.1 kinds
  cases r with
  | init registers code => cases kind
  | wait code => cases kind
  | fini => cases kind
  | render rendered code =>
    have sent := sent rendered code (List.mem_singleton_self _)
    refine ⟨_, created b rfl, rendered, code, calls, (sent 0).trans ?_, (sent 1).trans ?_⟩
    · decide +kernel
    · decide +kernel

end Driver

end LedStrip
