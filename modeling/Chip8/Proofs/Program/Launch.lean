import Chip8.Program
import Chip8.Proofs.Device.Reset
import Chip8.Proofs.Window.Beeping

/-!
# Starting the program

The command can be refused for its program alone: the path leads to no file, or to one that cannot
be read, is empty or is too large (`Program.complaint?`).  Then nothing is done but to say so.  No
configuration is refused, for the speed is cut down to a number of instructions in a frame that is
at least one (`Options.grantedBy_configuration`), and the font fits where it is put
(`Program.exists_create`).  With a good program a window opens, if the display opens one of its size
(`Program.exists_opens_launch`): its device was started with that program.  Then the main loop makes
its passes, and nothing else comes of the command.

An option that was given without its value makes the command break off where it needs the value, so
the options here are those with all their values.
-/

namespace Chip8

/-! ## Lines -/

namespace Effect

theorem printedOf_append (first second : Array Effect) :
    printedOf (first ++ second) = printedOf first ++ printedOf second := by
  simp only [printedOf, Array.toList_append, List.filterMap_append]

theorem printedOf_log (entries : Array Log.Entry) : printedOf (entries.map .log) = [] := by
  simp [printedOf]

theorem printedOf_print (lines : List String) : printedOf (lines.map .print).toArray = lines := by
  simp [printedOf]

theorem mixerOf_print (lines : List String) : mixerOf (lines.map .print).toArray = [] := by
  simp [mixerOf]

end Effect

/-- A window opens without a word. -/
theorem Window.printedOf_opened (device : Device) (rom : Rom) (name : String) (scale : Nat)
    (size : Nat × Nat) (color : Color) (mixer : Mixer) :
    Effect.printedOf (opened device rom name scale size color mixer).trace = [] := by
  cases mixer <;> rfl

/-- A listed profile goes by its own name. -/
theorem Dialect.profileName_of_mem {dialect : Dialect} {profile : String}
    (h : (profile, dialect) ∈ profiles) : dialect.profileName = profile := by
  have hlisted : ∀ entry ∈ profiles, entry.2.profileName = entry.1 := by decide
  exact hlisted _ h

/-! ## The configuration -/

namespace Options

/-- A configuration has the speed that options ask for, cut down to whole instructions in a frame,
of which there is at least one. -/
structure GrantedBy (options : Options) (config : Config) : Prop where
  accepted :
    Config.make (max 1 (options.speed / 60)) 60 16 0 options.font options.dialect options.seed =
      .ok config
  cycles : (config.cyclesPerFrame : Int) = max 1 (options.speed / 60)
  multiple : 60 ∣ config.clockRate
  positive : 0 < config.clockRate
  fast : 60 ≤ options.speed →
    (config.clockRate : Int) ≤ options.speed ∧ options.speed < config.clockRate + 60
  slow : options.speed < 60 → config.clockRate = 60

/-- The checks of a configuration hold for every speed, whether above zero or not. -/
theorem grantedBy_configuration (options : Options) :
    options.GrantedBy options.configuration := by
  have hcycles : (options.configuration.cyclesPerFrame : Int) = max 1 (options.speed / 60) := by
    change (((max 1 (options.speed / 60)).toNat : Nat) : Int) = _
    omega
  have hclock : options.configuration.clockRate = options.configuration.cyclesPerFrame * 60 := rfl
  refine ⟨?_, hcycles, ?_, ?_, ?_, ?_⟩
  · unfold Config.make
    rw [if_neg (by omega), dif_neg (by decide), dif_neg (by decide)]
    rfl
  · rw [hclock]
    exact Nat.dvd_mul_left 60 _
  · omega
  · intro hfast
    omega
  · intro hslow
    omega

variable {options : Options}

theorem require_eq_ok (hvalues : options.valueless = []) (settings : List Setting) :
    options.require settings = .ok () := by
  have hnone : settings.find? (· ∈ options.valueless) = none := by
    simp [hvalues]
  unfold require
  rw [hnone]

theorem config_eq_ok (hvalues : options.valueless = []) :
    options.config = .ok options.configuration := by
  unfold config
  rw [require_eq_ok hvalues]
  rfl

end Options

namespace Program

variable {options : Options} {found : Found} {entropy : Int}

/-! ## The program and its device -/

/-- What is wrong with the file of a program, in words. -/
def complaint? (path : String) : Found → Option String
  | .missing => some ("ROM not found: " ++ path)
  | .unreadable complaint => some complaint
  | .file data =>
    if data = [] then some ("ROM file is empty: " ++ path)
    else if 3584 < data.length then
      some ("ROM is " ++ toString data.length ++ " bytes, at most 3584 fit in memory")
    else none

theorem message_romTooLarge (size : Nat) :
    (Error.romTooLarge size maxRomSize).message =
      "ROM is " ++ toString size ++ " bytes, at most 3584 fit in memory" := by
  have hplain (n : Int) : (Detail.number n).plain = toString n := by
    simp only [Detail.plain, Detail.listed]
  have hlimit : " bytes, at most " ++ (toString ((maxRomSize : Nat) : Int) ++ " fit in memory") =
      " bytes, at most 3584 fit in memory" := by decide +kernel
  calc (Error.romTooLarge size maxRomSize).message
      = "ROM is " ++ (Detail.number size).plain ++ " bytes, at most " ++
          (Detail.number maxRomSize).plain ++ " fit in memory" := rfl
    _ = "ROM is " ++ toString size ++
          (" bytes, at most " ++ (toString ((maxRomSize : Nat) : Int) ++ " fit in memory")) := by
        rw [hplain, hplain, String.append_assoc, String.append_assoc]
        rfl
    _ = "ROM is " ++ toString size ++ " bytes, at most 3584 fit in memory" := by rw [hlimit]

/-- The font fits at the beginning of memory, so that a device can be had. -/
theorem exists_create (options : Options) (entropy : Int) :
    ∃ created, Device.create options.configuration entropy = .ok created ∧
      created.config = options.configuration ∧ created.fontPlace = ⟨options.font, 0⟩ ∧
      created.machine.random = .ofSeed (options.seed.getD entropy) := by
  let seed := options.seed.getD entropy
  obtain ⟨memory, hmemory⟩ : ∃ memory,
      (Machine.blank seed).memory.loadFont 0 options.font = .ok memory :=
    ⟨_, Memory.loadFont_eq_ok_iff.2 ⟨by decide, by decide, rfl⟩⟩
  have hmachine : Machine.withFont seed options.font 0 =
      .ok { Machine.blank seed with memory } := by
    simp only [Machine.withFont, bind_pure_comp, map_eq_ok_iff]
    exact ⟨memory, hmemory, rfl⟩
  exact ⟨_, Device.create_eq_ok_iff.2 ⟨_, hmachine, rfl⟩, rfl, Memory.fontPlace_of_loadFont hmemory,
    rfl⟩

/-- With a program from a file and a device, all that is left to be checked is the program's
size. -/
theorem load_eq_map (hvalues : options.valueless = []) {data : List UInt8} (hdata : data ≠ [])
    {created : Device} (hcreate : Device.create options.configuration entropy = .ok created) :
    load options (.file data) entropy =
      ((Rom.ofBytes data).mapError .refused).map fun rom => (created.load rom, rom) := by
  have hread : RomFile.read options.rom (.file data) = .ok data := by
    cases data with
    | nil => exact absurd rfl hdata
    | cons => rfl
  -- All that is asked before the size is asked has its answer already.
  unfold load
  rw [hread, Options.config_eq_ok hvalues, Options.require_eq_ok hvalues]
  change ((Device.create options.configuration entropy).mapError Ending.refused >>= fun device =>
    (Rom.ofBytes data).mapError Ending.refused >>= fun rom => .ok (device.load rom, rom)) = _
  rw [hcreate]
  cases Rom.ofBytes data <;> rfl

theorem load_eq_error (hvalues : options.valueless = []) {text : String}
    (h : complaint? options.rom found = some text) (entropy : Int) :
    ∃ error, load options found entropy = .error (.refused error) ∧ error.message = text := by
  cases found with
  | missing => exact ⟨.romNotFound options.rom, rfl, Option.some.inj h⟩
  | unreadable complaint => exact ⟨.unreadable complaint, rfl, Option.some.inj h⟩
  | file data =>
    rw [complaint?] at h
    split at h
    next hempty =>
      subst hempty
      exact ⟨.romEmpty options.rom, rfl, Option.some.inj h⟩
    next hdata =>
      split at h
      next hlarge =>
        obtain ⟨created, hcreate, -⟩ := exists_create options entropy
        have hrom : Rom.ofBytes data = .error (.romTooLarge data.length maxRomSize) :=
          dif_neg (Nat.not_le_of_lt hlarge)
        refine ⟨.romTooLarge data.length maxRomSize, ?_,
          (message_romTooLarge data.length).trans (Option.some.inj h)⟩
        rw [load_eq_map hvalues hdata hcreate, hrom]
        rfl
      next => cases h

theorem load_eq_ok (hvalues : options.valueless = []) (h : complaint? options.rom found = none)
    {created : Device} (hcreate : Device.create options.configuration entropy = .ok created) :
    ∃ rom : Rom, found = .file rom.bytes ∧
      load options found entropy = .ok (created.load rom, rom) := by
  cases found with
  | missing => cases h
  | unreadable complaint => cases h
  | file data =>
    rw [complaint?] at h
    split at h
    next => cases h
    next hdata =>
      split at h
      next => cases h
      next hsize =>
        have hfits : data.length ≤ maxRomSize := Nat.le_of_not_lt hsize
        have hrom : Rom.ofBytes data = .ok ⟨data, hfits⟩ := dif_pos hfits
        refine ⟨⟨data, hfits⟩, rfl, ?_⟩
        rw [load_eq_map hvalues hdata hcreate, hrom]
        rfl

/-! ## Launching -/

section

variable (display : Window.Display) (mixer : Mixer)

/-- A launch with a program that is refused says so, and nothing else is done. -/
theorem launch_of_refused (hvalues : options.valueless = []) {error : Error}
    (hload : load options found entropy = .error (.refused error)) :
    launch options found display mixer entropy =
      ⟨.error (.refused error),
        ((banner ++ ["Error: " ++ error.message]).map Effect.print).toArray⟩ := by
  unfold launch
  rw [Options.require_eq_ok hvalues, hload]
  rfl

/-- A window of a size that the display opens is opened. -/
theorem window_eq_ok (hvalues : options.valueless = []) {size : Nat × Nat}
    (hsize : display (64 * (max 1 options.scale).toNat) (32 * (max 1 options.scale).toNat) =
      .ok size) (rom : Rom) (device : Device) :
    window options display mixer rom device =
      .ok (Window.opened device rom (Path.stem options.rom) (max 1 options.scale).toNat size
        options.phosphor.color mixer) := by
  have hasked : display (screenWidth * (max 1 options.scale).toNat)
      (screenHeight * (max 1 options.scale).toNat) = .ok size := hsize
  unfold window Window.create
  rw [Options.require_eq_ok hvalues]
  dsimp only
  rw [hasked]
  rfl

variable {display mixer} in
theorem launch_of_loaded (hvalues : options.valueless = []) {loaded : Logged Device} {rom : Rom}
    (hload : load options found entropy = .ok (loaded, rom)) {opening : Effectful Window}
    (hopen : window options display mixer rom loaded.value.start.value = .ok opening) :
    launch options found display mixer entropy =
      ⟨.ok opening.value,
        (banner.map Effect.print).toArray ++ (loaded.trace.map .log ++
          (#[.print (announcement options)] ++
            (loaded.value.start.trace.map .log ++ opening.trace)))⟩ := by
  unfold launch
  rw [Options.require_eq_ok hvalues, hload]
  apply Traced.ext
  · simp only [Traced.value_bind, Traced.logged, Traced.value_mapTrace, hopen, Traced.value_map]
  · simp only [Traced.trace_bind, Traced.logged, Traced.value_mapTrace, Traced.trace_mapTrace,
      Traced.trace_report, hopen, Traced.trace_map]
    rfl

/-! ## What comes of a launch -/

/-- The command ends without a window and with status 1.  All that it did is to greet and to say
what is wrong. -/
structure EndsWith (text : String) (ran : Effectful (Except Ending Window)) : Prop where
  ending : ∃ error, ran.value = .error (.refused error)
  status : status ran.value = 1
  effects : ran.trace = ((banner ++ ["Error: " ++ text]).map Effect.print).toArray
  silent : Effect.mixerOf ran.trace = []

theorem endsWith_run (hvalues : options.valueless = []) {text : String}
    (htext : complaint? options.rom found = some text) (entropy : Int)
    (passes : List Window.Pass) :
    EndsWith text (run options found display mixer entropy passes) := by
  obtain ⟨error, hload, rfl⟩ := load_eq_error hvalues htext entropy
  have hran : run options found display mixer entropy passes =
      ⟨.error (.refused error),
        ((banner ++ ["Error: " ++ error.message]).map Effect.print).toArray⟩ := by
    change (launch options found display mixer entropy >>= _) = _
    rw [launch_of_refused display mixer hvalues hload]
    rfl
  rw [hran]
  exact ⟨⟨error, rfl⟩, rfl, rfl, rfl⟩

end

/-- A device that was just started with a program: the program stands in memory over the font that
was chosen, and all the rest is as in a new machine. -/
structure StartedWith (options : Options) (entropy : Int) (data : List UInt8) (device : Device) :
    Prop where
  state : device =
    { config := options.configuration
      machine := {
        cpu := .initial
        memory := device.machine.memory
        screen := Screen.dark
        keypad := .released
        random := .ofSeed (options.seed.getD entropy) }
      running := true
      fault := none
      romSize := some data.length
      frames := 0
      elapsed := 0 }
  font : device.fontPlace = ⟨options.font, 0⟩
  memory : ∀ address : Nat, address < 4096 →
    device.machine.memory.byteAt address =
      if 0x200 ≤ address ∧ address < 0x200 + data.length then data.getD (address - 0x200) 0
      else if address < 80 then options.font.glyphs.getD address 0
      else 0

theorem startedWith_load {created : Device} (hconfig : created.config = options.configuration)
    (hplace : created.fontPlace = ⟨options.font, 0⟩)
    (hrandom : created.machine.random = .ofSeed (options.seed.getD entropy)) (rom : Rom) :
    StartedWith options entropy rom.bytes (created.load rom).value.start.value := by
  have hstart : (created.load rom).value.start.value =
      { (created.load rom).value with running := true } := rfl
  have hfont : created.machine.memory.font = options.font := congrArg FontPlace.font hplace
  have hoffset : created.machine.memory.fontOffset = 0 :=
    Int.natCast_inj.1 (congrArg FontPlace.offset hplace)
  rw [hstart]
  refine ⟨?_, (Device.fontPlace_load created rom).trans hplace, ?_⟩
  · rw [Device.value_load, hconfig, hrandom]
    rfl
  · intro address haddress
    have hbyte : ((Device.wipedMemory created.machine.memory).store programStart
        rom.bytes).byteAt address = _ := Memory.byteAt_store _ _ _ haddress
    rw [Device.byteAt_wipedMemory _ haddress, hfont, hoffset] at hbyte
    simp only [Nat.zero_le, true_and, Nat.zero_add, Nat.sub_zero] at hbyte
    exact hbyte

/-- The line that tells what runs, in full. -/
theorem announcement_eq (options : Options) :
    announcement options =
      "Running " ++ Path.fileName options.rom ++ " at " ++
        toString (max 1 (options.speed / 60) * 60) ++ " Hz, profile: " ++
        options.dialect.profileName := by
  have hrate : (options.configuration.clockRate : Int) = max 1 (options.speed / 60) * 60 := by
    have hclock : options.configuration.clockRate = options.configuration.cyclesPerFrame * 60 := rfl
    rw [hclock, Int.natCast_mul, options.grantedBy_configuration.cycles]
    rfl
  rw [← hrate]
  rfl

/-- The window of a launch as it is before its main loop, on a display that opened it with a number
of columns and rows.  The command greeted and told what runs.  The mixer was opened for the window
and not called besides. -/
structure Opens (options : Options) (entropy : Int) (data : List UInt8) (size : Nat × Nat)
    (launched : Effectful (Except Ending Window)) (window : Window) : Prop where
  ending : launched.value = .ok window
  rom : window.rom.bytes = data
  size : window.size = size
  color : window.color = options.phosphor.color
  caption : window.caption = "chip8vm - " ++ Path.stem options.rom
  device : StartedWith options entropy data window.device
  running : window.running = true
  unpaused : window.paused = false
  queue : window.queue = []
  lines : Effect.printedOf launched.trace =
    ["chip8vm - CHIP-8 virtual machine",
      "  CHIP-8 Keypad: 1234 / QWER / ASDF / ZXCV",
      "  P = Pause/Resume, Backspace = Reset, ESC = Exit",
      "",
      "Running " ++ Path.fileName options.rom ++ " at " ++
        toString (max 1 (options.speed / 60) * 60) ++ " Hz, profile: " ++
        options.dialect.profileName]
  mixer : Effect.mixerOf launched.trace = [.init 44100 (-16) 1 256]

/-- Nothing but the display could keep a launch with a good program from opening its window. -/
theorem exists_opens_launch (hvalues : options.valueless = [])
    (hfine : complaint? options.rom found = none) {display : Window.Display} {size : Nat × Nat}
    (hsize : display (64 * (max 1 options.scale).toNat) (32 * (max 1 options.scale).toNat) =
      .ok size) (mixer : Mixer) (entropy : Int) :
    ∃ data window, found = .file data ∧
      Opens options entropy data size (launch options found display mixer entropy) window := by
  obtain ⟨created, hcreate, hconfig, hplace, hrandom⟩ := exists_create options entropy
  obtain ⟨rom, hfound, hload⟩ := load_eq_ok hvalues hfine hcreate
  have hopen := window_eq_ok display mixer hvalues hsize rom (created.load rom).value.start.value
  have hcaption : Window.captionFor (Path.stem options.rom) false none =
      "chip8vm - " ++ Path.stem options.rom := by
    simp only [Window.captionFor, Bool.false_eq_true, if_false, String.append_empty]
  rw [launch_of_loaded hvalues hload hopen]
  refine ⟨rom.bytes, _, hfound, rfl, rfl, rfl, rfl, hcaption,
    startedWith_load hconfig hplace hrandom rom, rfl, rfl, rfl, ?_, ?_⟩
  · rw [← announcement_eq]
    simp only [Effect.printedOf_append, Effect.printedOf_log, Effect.printedOf_print,
      Window.printedOf_opened, List.nil_append]
    rfl
  · simp only [Effect.mixerOf_append, Effect.mixerOf_log, Effect.mixerOf_print,
      Window.mixerOf_opened, List.nil_append]
    rfl

/-- A window that is launched runs its main loop, and that is all. -/
theorem run_of_launched {display : Window.Display} {mixer : Mixer} {window : Window}
    (h : (launch options found display mixer entropy).value = .ok window)
    (passes : List Window.Pass) :
    run options found display mixer entropy passes =
      ⟨.ok (window.run passes).value,
        (launch options found display mixer entropy).trace ++ (window.run passes).trace⟩ := by
  change (launch options found display mixer entropy >>= _) = _
  apply Traced.ext
  · rw [Traced.value_bind, h]
    rfl
  · rw [Traced.trace_bind, h]
    simp only [Traced.trace_map]

/-- Whatever the speed, the configuration is not refused: the speed is cut down to whole
instructions in a frame, of which there is at least one.  Whatever the path of the program leads to,
the command ends with status 1 if that is no file, or one that cannot be read, is empty or is larger
than 3584 bytes; it says so, opens no window and does not call the mixer.  With any other file a
window opens, if the display opens one of its size.  Its device was started with just that program,
its main loop makes its passes until the window is closed, and behind the main loop the command ends
with status 0. -/
theorem run_refused_or_opens (options : Options) (hvalues : options.valueless = []) :
    options.config = .ok options.configuration ∧ options.GrantedBy options.configuration ∧
    (∀ profile, (profile, options.dialect) ∈ Dialect.profiles →
      options.dialect.profileName = profile) ∧
    ∀ (found : Found) (display : Window.Display) (mixer : Mixer) (entropy : Int)
        (passes : List Window.Pass),
      let launched := launch options found display mixer entropy
      let ran := run options found display mixer entropy passes
      (∀ text, complaint? options.rom found = some text → EndsWith text ran) ∧
      (complaint? options.rom found = none →
        let scale := (max 1 options.scale).toNat
        ∀ size, display (64 * scale) (32 * scale) = .ok size →
          ∃ data window made looped, found = .file data ∧
            Opens options entropy data size launched window ∧
            window.LoopedFor passes made looped ∧
            ran = ⟨.ok looped.value, launched.trace ++ looped.trace⟩ ∧
            status ran.value = 0) := by
  refine ⟨Options.config_eq_ok hvalues, options.grantedBy_configuration,
    fun profile => Dialect.profileName_of_mem, ?_⟩
  intro found display mixer entropy passes launched ran
  refine ⟨fun text htext => endsWith_run display mixer hvalues htext entropy passes, ?_⟩
  intro hfine scale size hsize
  obtain ⟨data, window, hfound, hopens⟩ :=
    exists_opens_launch hvalues hfine hsize mixer entropy
  obtain ⟨made, hlooped⟩ := window.exists_loopedFor passes
  have hran : ran = ⟨.ok (window.run passes).value, launched.trace ++ (window.run passes).trace⟩ :=
    run_of_launched hopens.ending passes
  exact ⟨data, window, made, window.run passes, hfound, hopens, hlooped, hran,
    congrArg (fun x => status x.value) hran⟩

/-- A game at a place below the root of the file system, a file without a byte, a path to nothing
and a file that is kept from the user, at a speed below zero. -/
theorem run_refused_or_opens_game :
    let options : Options :=
      { Options.standard "/roms/pong.ch8" with speed := -7, scale := -3 }
    let display : Window.Display := fun columns rows => .ok (columns, rows)
    let ran (found : Found) := run options found display .working 0 [⟨[.quit], 0⟩, ⟨[], 0⟩]
    options.valueless = [] ∧ options.configuration.clockRate = 60 ∧
      status (ran (.file [0x12, 0x00])).value = 0 ∧
      EndsWith "ROM file is empty: /roms/pong.ch8" (ran (.file [])) ∧
      EndsWith "ROM not found: /roms/pong.ch8" (ran .missing) ∧
      EndsWith "Permission denied" (ran (.unreadable "Permission denied")) := by
  intro options display ran
  obtain ⟨-, hspeed, -, hends⟩ := run_refused_or_opens options rfl
  have hended (found : Found) := hends found display .working 0 [⟨[.quit], 0⟩, ⟨[], 0⟩]
  have hfine : complaint? options.rom (.file [0x12, 0x00]) = none := by decide +kernel
  obtain ⟨data, window, made, looped, -, -, -, -, hstatus⟩ :=
    (hended (.file [0x12, 0x00])).2 hfine (64, 32) (by decide +kernel)
  refine ⟨rfl, hspeed.slow (by decide), hstatus, (hended (.file [])).1 _ ?_,
    (hended .missing).1 _ ?_, (hended (.unreadable "Permission denied")).1 _ rfl⟩
  · decide +kernel
  · decide +kernel

end Program
end Chip8
