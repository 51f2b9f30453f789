import Mathlib.Data.List.Find
import Chip8.Proofs.Device.Halted
import Chip8.Proofs.Device.KeyWait

/-!
# Key reports in any order

A host may have several keys to report at once, and then it is by chance which of them it reports
first.  If every key is reported once, the order has no bearing on the keypad: each key ends up as
it was reported (`Keypad.isDown_hearing_of_mem`), and the others stay
(`Keypad.isDown_hearing_of_not_mem`).

Nor has it any bearing on a device that does not wait for a key, of which the reports change nothing
but the keypad (`Device.after_of_reportsKey`).  On a device that waits, the first report of a key
that goes down ends the wait, and the order decides which one that is
(`Device.after_reports_of_waiting`).  As no key is reported twice, what its report finds is what
there was before all of them, so that the report that counts can be told from the order alone.
-/

namespace Chip8

/-- What a host reports of a key: that it went down, or up. -/
structure KeyReport where
  key : Key
  pressed : Bool
  deriving DecidableEq, Repr

namespace KeyReport

def request (report : KeyReport) : Request :=
  .setKey report.key.val report.pressed

end KeyReport

/-- Whether the request reports a key. -/
def Request.reportsKey : Request → Bool
  | setKey _ _ => true
  | _ => false

theorem KeyReport.reportsKey_of_mem_map {reports : List KeyReport} {request : Request}
    (h : request ∈ reports.map KeyReport.request) : request.reportsKey = true := by
  obtain ⟨report, -, rfl⟩ := List.mem_map.1 h
  rfl

/-! ## The keypad -/

namespace Keypad

variable {keypad : Keypad} {reports order : List KeyReport} {report : KeyReport} {key : Key}

/-- Whether a report says of a key that is up that it went down. -/
def goesDown (keypad : Keypad) (report : KeyReport) : Bool :=
  report.pressed && !keypad.isDown report.key

/-- The keys that are down after some reports. -/
def hearing (keypad : Keypad) (reports : List KeyReport) : Keypad :=
  (reports.map KeyReport.request).foldl noting keypad

theorem noting_request (keypad : Keypad) (report : KeyReport) :
    keypad.noting report.request = keypad.set report.key report.pressed := by
  simp only [KeyReport.request, noting, Key.ofInt?_val]

theorem hearing_cons (keypad : Keypad) (report : KeyReport) (reports : List KeyReport) :
    keypad.hearing (report :: reports) =
      (keypad.set report.key report.pressed).hearing reports := by
  simp only [hearing, List.map_cons, List.foldl_cons, noting_request]

/-- A key that is not reported stays as it was. -/
theorem isDown_hearing_of_not_mem (h : key ∉ reports.map KeyReport.key) :
    (keypad.hearing reports).isDown key = keypad.isDown key := by
  induction reports generalizing keypad with
  | nil => rfl
  | cons report rest ih =>
    rw [List.map_cons, List.mem_cons, not_or] at h
    rw [hearing_cons, ih h.2, isDown_set, if_neg h.1]

/-- A key that is reported once ends up as it was reported. -/
theorem isDown_hearing_of_mem (hdistinct : (reports.map KeyReport.key).Nodup)
    (hmem : report ∈ reports) :
    (keypad.hearing reports).isDown report.key = report.pressed := by
  induction reports generalizing keypad with
  | nil => cases hmem
  | cons first rest ih =>
    rw [List.map_cons, List.nodup_cons] at hdistinct
    rw [hearing_cons]
    rcases List.mem_cons.1 hmem with rfl | hrest
    · rw [isDown_hearing_of_not_mem hdistinct.1, isDown_set, if_pos rfl]
    · exact ih hdistinct.2 hrest

theorem hearing_perm (keypad : Keypad) (hdistinct : (reports.map KeyReport.key).Nodup)
    (horder : order.Perm reports) : keypad.hearing order = keypad.hearing reports := by
  have hdistinct' : (order.map KeyReport.key).Nodup :=
    (horder.map KeyReport.key).nodup_iff.2 hdistinct
  refine ext_isDown fun key => ?_
  by_cases hkey : key ∈ reports.map KeyReport.key
  · obtain ⟨report, hmem, rfl⟩ := List.mem_map.1 hkey
    rw [isDown_hearing_of_mem hdistinct hmem,
      isDown_hearing_of_mem hdistinct' (horder.mem_iff.2 hmem)]
  · have hkey' : key ∉ order.map KeyReport.key :=
      fun hmem => hkey ((horder.map KeyReport.key).mem_iff.1 hmem)
    rw [isDown_hearing_of_not_mem hkey, isDown_hearing_of_not_mem hkey']

/-- A report of one key has no bearing on whether another one goes down. -/
theorem goesDown_set_of_ne {pressed : Bool} (h : report.key ≠ key) :
    (keypad.set key pressed).goesDown report = keypad.goesDown report := by
  rw [goesDown, goesDown, isDown_set, if_neg h]

end Keypad

namespace Device

variable {device : Device} {reports : List KeyReport} {report : KeyReport}

theorem runState_eq_waiting_iff :
    device.runState = .waiting ↔ device.running = true ∧ device.awaitingKey = true := by
  unfold runState
  cases device.running with
  | false => simp
  | true => cases device.awaitingKey <;> simp

/-- The device with other keys down. -/
def withKeypad (device : Device) (keypad : Keypad) : Device :=
  device.withSurface keypad device.machine.memory

/-! ## Reports that are noted -/

/-- A device that does not wait for a key only takes note of one. -/
theorem serve_of_reportsKey (hready : device.runState ≠ .waiting) {request : Request}
    (hreports : request.reportsKey = true) :
    (device.serve request).device =
      device.withKeypad (device.machine.keypad.noting request) := by
  have hbecomes := becomes_serve device request
  generalize (device.serve request).device = later at hbecomes ⊢
  cases hbecomes with
  | keyRefused hkey | keyNoted hkey =>
    simp only [withKeypad, withSurface, Keypad.noting, hkey]
  | resumed hkey hup hrunning hwait =>
    exact absurd (runState_eq_waiting_iff.2 ⟨hrunning, hwait⟩) hready
  | _ => cases hreports

theorem after_of_reportsKey (hready : device.runState ≠ .waiting) {requests : List Request}
    (hreports : ∀ request ∈ requests, request.reportsKey = true) :
    device.after requests =
      device.withKeypad (requests.foldl Keypad.noting device.machine.keypad) := by
  induction requests generalizing device with
  | nil => rfl
  | cons request rest ih =>
    obtain ⟨hfirst, hrest⟩ := List.forall_mem_cons.1 hreports
    have hserved := serve_of_reportsKey hready hfirst
    have hready' : (device.serve request).device.runState ≠ .waiting := by
      rw [hserved]
      exact hready
    rw [after_cons, ih hready' hrest, hserved]
    rfl

/-! ## Reports to a device that waits -/

/-- The device after the report that ended its wait, if there was one. -/
def answeredBy (device : Device) : Option KeyReport → Device
  | some report => device.resumedBy report.key
  | none => device

theorem serve_request_of_goesDown (hwait : device.runState = .waiting)
    (hpress : device.machine.keypad.goesDown report = true) :
    (device.serve report.request).device = device.resumedBy report.key := by
  obtain ⟨hrunning, hawaiting⟩ := runState_eq_waiting_iff.1 hwait
  rw [Keypad.goesDown, Bool.and_eq_true, Bool.not_eq_true'] at hpress
  have hrequest : report.request = .setKey report.key.val true := by
    rw [KeyReport.request, hpress.1]
  exact device_serve_of_freshPress hawaiting <|
    freshPress?_eq_some_iff.2 ⟨_, hrequest, Key.ofInt?_val report.key, hrunning, hpress.2⟩

theorem serve_request_of_not_goesDown
    (hstale : device.machine.keypad.goesDown report = false) :
    (device.serve report.request).device =
      device.withKeypad (device.machine.keypad.set report.key report.pressed) := by
  rw [Keypad.goesDown] at hstale
  simp only [KeyReport.request, serve_setKey, Key.ofInt?_val, Served.ofLogged, value_setKey, hstale,
    Bool.false_and, Bool.false_eq_true, if_false]
  rfl

/-- The first report of a key that goes down ends the wait.  All others are noted. -/
theorem after_reports_of_waiting (hwait : device.runState = .waiting)
    (hdistinct : (reports.map KeyReport.key).Nodup) :
    device.after (reports.map KeyReport.request) =
      (device.answeredBy (reports.find? device.machine.keypad.goesDown)).withKeypad
        (device.machine.keypad.hearing reports) := by
  induction reports generalizing device with
  | nil => rfl
  | cons report rest ih =>
    rw [List.map_cons, List.nodup_cons] at hdistinct
    rw [List.map_cons, after_cons, List.find?_cons]
    cases hpress : device.machine.keypad.goesDown report with
    | true =>
      have hpressed : report.pressed = true := (Bool.and_eq_true_iff.1 hpress).1
      have hready : (device.resumedBy report.key).runState ≠ .waiting := fun hstill => by
        cases (runState_eq_waiting_iff.1 hstill).2
      rw [serve_request_of_goesDown hwait hpress,
        after_of_reportsKey hready fun _ => KeyReport.reportsKey_of_mem_map, Keypad.hearing_cons,
        hpressed]
      rfl
    | false =>
      rw [serve_request_of_not_goesDown hpress]
      -- What the rest finds is what there was before the report, for it is about other keys.
      have hsame : rest.find? (device.machine.keypad.set report.key report.pressed).goesDown =
          rest.find? device.machine.keypad.goesDown := by
        refine List.find?_congr fun other hmem => Keypad.goesDown_set_of_ne fun heq => ?_
        exact hdistinct.1 (heq ▸ List.mem_map_of_mem hmem)
      have hrest := @ih
        (device.withKeypad (device.machine.keypad.set report.key report.pressed)) hwait hdistinct.2
      rw [hrest, Keypad.hearing_cons]
      simp only [withKeypad, withSurface, hsame]
      cases rest.find? device.machine.keypad.goesDown <;> rfl

theorem keypad_after_reports (device : Device) (hdistinct : (reports.map KeyReport.key).Nodup) :
    (device.after (reports.map KeyReport.request)).machine.keypad =
      device.machine.keypad.hearing reports := by
  by_cases hwait : device.runState = .waiting
  · rw [after_reports_of_waiting hwait hdistinct]
    rfl
  · rw [after_of_reportsKey hwait fun _ => KeyReport.reportsKey_of_mem_map]
    rfl

theorem outcome_serve_request (device : Device) (report : KeyReport) :
    (device.serve report.request).outcome = .ok #[] := by
  simp only [KeyReport.request, serve_setKey, Key.ofInt?_val]
  rfl

theorem get_keyRegister_resumedBy (device : Device) (key : Key) :
    (device.resumedBy key).machine.cpu.get device.machine.cpu.keyRegister = key.val := by
  change (device.machine.cpu.set device.machine.cpu.keyRegister key.val).get _ = _
  rw [Cpu.get_set, if_pos rfl]

/-- The wait lasts until the first report of a key that goes down. -/
theorem runState_after_reports_eq_waiting_iff (hwait : device.runState = .waiting)
    (hdistinct : (reports.map KeyReport.key).Nodup) :
    (device.after (reports.map KeyReport.request)).runState = .waiting ↔
      reports.find? device.machine.keypad.goesDown = none := by
  rw [after_reports_of_waiting hwait hdistinct]
  cases reports.find? device.machine.keypad.goesDown with
  | none => exact iff_of_true hwait rfl
  | some report =>
    refine iff_of_false (fun hstill => ?_) (Option.some_ne_none report)
    cases (runState_eq_waiting_iff.1 hstill).2

/-- What a report finds at its turn is what there was before all of them. -/
theorem isDown_at_turn (hwait : device.runState = .waiting) {early late : List KeyReport}
    (hdistinct : ((early ++ report :: late).map KeyReport.key).Nodup) :
    (device.after (early.map KeyReport.request)).machine.keypad.isDown report.key =
      device.machine.keypad.isDown report.key := by
  rw [List.map_append, List.nodup_append] at hdistinct
  have hother : report.key ∉ early.map KeyReport.key :=
    fun hmem => hdistinct.2.2 _ hmem _ List.mem_cons_self rfl
  rw [after_reports_of_waiting hwait hdistinct.1]
  exact Keypad.isDown_hearing_of_not_mem hother

/-- At its turn a report ends the wait if it is the first of a key that goes down, and is noted
otherwise. -/
theorem serve_at_turn (hwait : device.runState = .waiting) {early late : List KeyReport}
    (hdistinct : ((early ++ report :: late).map KeyReport.key).Nodup) :
    let turn := device.after (early.map KeyReport.request)
    let next := (turn.serve report.request).device
    if (early ++ report :: late).find? device.machine.keypad.goesDown = some report then
      turn.runState = .waiting ∧ next = turn.resumedBy report.key
    else next = turn.withKeypad (turn.machine.keypad.set report.key report.pressed) := by
  intro turn next
  have hfound : turn.machine.keypad.goesDown report = device.machine.keypad.goesDown report := by
    rw [Keypad.goesDown, Keypad.goesDown, isDown_at_turn hwait hdistinct]
  rw [List.map_append, List.nodup_append] at hdistinct
  have hstill := runState_after_reports_eq_waiting_iff hwait hdistinct.1
  rw [List.find?_append]
  cases hearly : early.find? device.machine.keypad.goesDown with
  | some other =>
    have hne : other ≠ report := by
      rintro rfl
      have hmem := List.mem_map_of_mem (f := KeyReport.key) (List.mem_of_find?_eq_some hearly)
      exact hdistinct.2.2 _ hmem _ List.mem_cons_self rfl
    have hready : turn.runState ≠ .waiting := fun hwaits => by
      rw [hstill.1 hwaits] at hearly
      cases hearly
    rw [Option.some_or, if_neg (fun heq => hne (Option.some.inj heq)), ← Keypad.noting_request]
    exact serve_of_reportsKey hready rfl
  | none =>
    have hwaits : turn.runState = .waiting := hstill.2 hearly
    rw [Option.none_or, List.find?_cons]
    cases hpress : device.machine.keypad.goesDown report with
    | true =>
      rw [if_pos rfl]
      exact ⟨hwaits, serve_request_of_goesDown hwaits (hfound.trans hpress)⟩
    | false =>
      rw [if_neg]
      · exact serve_request_of_not_goesDown (hfound.trans hpress)
      · intro hlate
        rw [List.find?_some hlate] at hpress
        cases hpress

/-! ## Any order -/

/-- Whatever the order in which keys are reported that are each reported once, every key ends up as
it was reported, and the others stay.  A device that does not wait for a key comes to the same in
every order, and differs from what it was by its keypad alone.  On a device that waits, the first
report of a key that goes down puts the key into the register and ends the wait, and all others are
noted; without such a report the device waits on.  What is no key is refused. -/
theorem reports_in_any_order (device : Device) {reports order : List KeyReport}
    (hdistinct : (reports.map KeyReport.key).Nodup) (horder : order.Perm reports) :
    let later := device.after (order.map KeyReport.request)
    let answer := order.find? device.machine.keypad.goesDown
    later.machine.keypad = (device.after (reports.map KeyReport.request)).machine.keypad ∧
      (∀ report ∈ reports, later.machine.keypad.isDown report.key = report.pressed) ∧
      (∀ key, key ∉ reports.map KeyReport.key →
        later.machine.keypad.isDown key = device.machine.keypad.isDown key) ∧
      (device.runState ≠ .waiting →
        later = device.after (reports.map KeyReport.request) ∧
        later = device.withKeypad later.machine.keypad) ∧
      (device.runState = .waiting →
        later = (device.answeredBy answer).withKeypad later.machine.keypad ∧
        (later.runState = .waiting ↔ answer = none) ∧
        (∀ report, answer = some report →
          later.machine.cpu.get device.machine.cpu.keyRegister = report.key.val) ∧
        ∀ early report late, order = early ++ report :: late →
          let turn := device.after (early.map KeyReport.request)
          let next := (turn.serve report.request).device
          turn.machine.keypad.isDown report.key = device.machine.keypad.isDown report.key ∧
          if answer = some report then
            turn.runState = .waiting ∧ next = turn.resumedBy report.key
          else next = turn.withKeypad (turn.machine.keypad.set report.key report.pressed)) ∧
      (∀ (turn : Device) (report : KeyReport), (turn.serve report.request).outcome = .ok #[]) ∧
      ∀ id pressed, id < 0 ∨ 16 ≤ id →
        device.serve (.setKey id pressed) = ⟨device, .error (.invalidKey id), #[]⟩ := by
  intro later answer
  have hdistinct' : (order.map KeyReport.key).Nodup :=
    (horder.map KeyReport.key).nodup_iff.2 hdistinct
  have hkeypad : later.machine.keypad = device.machine.keypad.hearing reports := by
    rw [← Keypad.hearing_perm _ hdistinct horder]
    exact device.keypad_after_reports hdistinct'
  refine ⟨?keypad, ?reported, ?others, ?noted, ?answered, outcome_serve_request, ?refused⟩
  case keypad => rw [hkeypad, device.keypad_after_reports hdistinct]
  case reported =>
    intro report hmem
    rw [hkeypad]
    exact Keypad.isDown_hearing_of_mem hdistinct hmem
  case others =>
    intro key hother
    rw [hkeypad]
    exact Keypad.isDown_hearing_of_not_mem hother
  case noted =>
    intro hready
    have hlater : later = device.withKeypad (device.machine.keypad.hearing order) :=
      after_of_reportsKey hready fun _ => KeyReport.reportsKey_of_mem_map
    rw [Keypad.hearing_perm _ hdistinct horder] at hlater
    refine ⟨hlater.trans ?_, by rw [hkeypad, hlater]⟩
    exact (after_of_reportsKey hready fun _ => KeyReport.reportsKey_of_mem_map).symm
  case answered =>
    intro hwait
    have hlater : later = (device.answeredBy answer).withKeypad later.machine.keypad := by
      rw [hkeypad, ← Keypad.hearing_perm _ hdistinct horder]
      exact after_reports_of_waiting hwait hdistinct'
    refine ⟨hlater, runState_after_reports_eq_waiting_iff hwait hdistinct', ?_, ?_⟩
    · intro report hanswer
      rw [hlater, hanswer]
      exact get_keyRegister_resumedBy device report.key
    · intro early report late hsplit turn next
      rw [hsplit] at hdistinct'
      refine ⟨isDown_at_turn hwait hdistinct', ?_⟩
      have hturn := serve_at_turn hwait hdistinct'
      rw [← hsplit] at hturn
      exact hturn
  case refused =>
    intro id pressed hid
    simp only [serve_setKey, Key.ofInt?_eq_none_iff.2 hid]

/-- A program waits while a key is held.  The host reports that key again and another one that goes
up, and two that go down: whichever it reports first is the one that the program gets. -/
theorem reports_in_any_order_two_presses :
    ∃ created, Device.create .standard 0 = .ok created ∧
      let device := created.after [.loadRom [0xF3, 0x0A], .setKey 5 true, .start, .step]
      let reports : List KeyReport := [⟨5, true⟩, ⟨9, false⟩, ⟨2, true⟩, ⟨7, true⟩]
      let register := device.machine.cpu.keyRegister
      let first := device.after (reports.map KeyReport.request)
      let second := device.after (reports.reverse.map KeyReport.request)
      device.runState = .waiting ∧ first.machine.cpu.get register = 2 ∧
        second.machine.cpu.get register = 7 ∧
        first.machine.keypad = second.machine.keypad := by
  refine ⟨_, rfl, ?_⟩
  intro device reports register first second
  have hdistinct : (reports.map KeyReport.key).Nodup := by decide
  have hwait : device.runState = .waiting := by decide +kernel
  have hanswers : reports.find? device.machine.keypad.goesDown = some ⟨2, true⟩ ∧
      reports.reverse.find? device.machine.keypad.goesDown = some ⟨7, true⟩ := by
    decide +kernel
  -- From here on, what the device is in full has no bearing.
  clear_value device
  obtain ⟨-, -, -, -, hfirst, -, -⟩ :=
    reports_in_any_order device hdistinct (List.Perm.refl reports)
  obtain ⟨hkeypad, -, -, -, hsecond, -, -⟩ :=
    reports_in_any_order device hdistinct reports.reverse_perm
  obtain ⟨-, -, hregister, -⟩ := hfirst hwait
  obtain ⟨-, -, hregister', -⟩ := hsecond hwait
  exact ⟨hwait, hregister _ hanswers.1, hregister' _ hanswers.2, hkeypad.symm⟩

end Device
end Chip8
