import UsbManager.Attached
import UsbManager.Client
import UsbManager.DeviceEvents
import UsbManager.Functions
import UsbManager.Hostile
import UsbManager.Lib.Simulation
import UsbManager.PortManager

/-!
# The whole service

`UsbService` with all its managers: `UsbService.whole` implements every method of the
interface, `Report.handle` what the service does when usbd reports something.  Calls
and reports are handled one after the other; a dialog that a call shows is answered
before the next is handled.  `ServiceState.sound` says what holds of the service in
every run.
-/

namespace UsbManager

/-! ## The state of the service -/

/-- A `COMMON_EVENT_USB_PORT_CHANGED` broadcast. -/
structure PortEvent where
  portId : Int32
  powerRole : Int32
  dataRole : Int32
  mode : Int32
  deriving DecidableEq, Repr

/-- The managers for functions and ports, and the ports that were announced. -/
structure Managers where
  deviceManager : UsbDeviceManager := {}
  portManager : UsbPortManager := {}
  portEvents : List PortEvent := []

abbrev ServiceState := World × Managers

/-- What is answered from outside while a call or a report is handled: by usbd to the
calls that name no device, by the user to a dialog, should one be shown, and by the
event manager to a broadcast of a port. -/
structure Outside where
  queryPort : QueryReply
  getCurrentFunctions : Uec × Int32
  setCurrentFunctions : Uec
  setPortRole : Uec
  dialogId : Int32
  event : String
  published : Bool
  deriving DecidableEq, Repr

/-- A usbd that agrees to everything, and a user who allows what is asked. -/
def allowing : Outside where
  queryPort := ⟨.UEC_OK, 0, 0, 0, 0⟩
  getCurrentFunctions := (.UEC_OK, 0)
  setCurrentFunctions := .UEC_OK
  setPortRole := .UEC_OK
  dialogId := 1
  event := "EVENT_ALLOW"
  published := true

/-- `GetSupportedModes`: the output argument is set where the port is known. -/
def UsbPortManager.getSupportedModes (portId supportedModes : Int32) (m : UsbPortManager) :
    Uec × Int32 :=
  match m.portMap[portId]? with
  | some port => (.UEC_OK, port.supportedModes)
  | none => (.UEC_SERVICE_INVALID_VALUE, supportedModes)

/-! ## The methods of the interface -/

namespace UsbService

variable (usbd : Usbd) (invalid : UInt32) (outside : Outside) (caller : Option String)

/-- `RequestRight`, to the end of its dialog. -/
def requestRightToEnd (deviceName : String) (w : World) : Uec × World :=
  match caller with
  | none => (.UEC_SERVICE_INNER_ERR, w)
  | some bundleName =>
    match requestRight (some bundleName) deviceName outside.dialogId w with
    | (some ret, w) => (ret, w)
    | (none, w) => requestRightAnswered bundleName deviceName outside.event w

/-- `GetDevices`, for an empty list. -/
def getDevices (w : World) : List UsbDevice := w.hostManager.devices.toList.map Prod.snd

/-- The methods that work with the managers for functions and ports, list the devices
or ask the user. -/
def others : IUsbSrv ServiceState
  | .requestRight deviceName, (w, managers) =>
    let (ret, w) := requestRightToEnd outside caller deviceName w
    ({ ret }, (w, managers))
  | .getDevices, (w, managers) => ({ deviceList := getDevices w }, (w, managers))
  | .getCurrentFunctions, s =>
    let (ret, value) := outside.getCurrentFunctions
    ({ ret, value }, s)
  | .setCurrentFunctions funcs, (w, managers) =>
    let (ret, deviceManager) :=
      setCurrentFunctions funcs outside.setCurrentFunctions managers.deviceManager
    ({ ret }, (w, { managers with deviceManager }))
  | .usbFunctionsFromString funcs, s =>
    ({ value := (UsbDeviceManager.convertFromString invalid funcs).toInt32 }, s)
  | .usbFunctionsToString funcs, s =>
    ({ text := UsbDeviceManager.convertToString funcs.toUInt32 }, s)
  | .getPorts, (w, managers) =>
    let ((ret, ports), portManager) := managers.portManager.getPorts outside.queryPort []
    ({ ret, ports }, (w, { managers with portManager }))
  | .getSupportedModes portId, (w, managers) =>
    let (ret, value) := managers.portManager.getSupportedModes portId 0
    ({ ret, value }, (w, managers))
  | .setPortRole _ _ _, s => ({ ret := outside.setPortRole }, s)
  | .hasRight _, s | .removeRight _, s | .onDevice _, s => ({}, s)

/-- All methods of the interface. -/
def whole : IUsbSrv ServiceState := srv usbd caller (others invalid outside caller)

end UsbService

/-! ## What usbd reports -/

/-- The two methods of `UsbServiceSubscriber`. -/
inductive Report where
  | deviceEvent (info : UsbInfo)
  | portChangedEvent (portId powerRole dataRole mode : Int32)
  deriving DecidableEq, Repr

namespace UsbServiceSubscriber

open UsbService

variable (usbd : Usbd) (outside : Outside)

/-- `DeviceEvent` -/
def deviceEvent (info : UsbInfo) : ServiceState → Prog Fault (Uec × ServiceState)
  | (w, managers) =>
    if .ACT_UPDEVICE = info.status ∨ .ACT_DOWNDEVICE = info.status then
      let (ret, reported) := outside.getCurrentFunctions
      let deviceManager := managers.deviceManager.handleEvent info.status ret reported
      pure (.UEC_OK, (w, { managers with deviceManager }))
    else
      let busNum := byteOfInt32 info.busNum
      let devAddr := byteOfInt32 info.devNum
      if info.status = .ACT_DEVUP then do
        let (_, w) ← addDevice usbd busNum devAddr w
        pure (.UEC_OK, (w, managers))
      else
        let (_, w) := delDevice usbd busNum devAddr w
        pure (.UEC_OK, (w, managers))

/-- `PortChangedEvent` returns whether the event was published. -/
def portChangedEvent (portId powerRole dataRole mode : Int32) :
    ServiceState → Uec × ServiceState
  | (w, managers) =>
    let portManager := managers.portManager.updatePort portId powerRole dataRole mode
    let portEvents :=
      if outside.published then managers.portEvents ++ [⟨portId, powerRole, dataRole, mode⟩]
      else managers.portEvents
    (uecOfBool outside.published, (w, { managers with portManager, portEvents }))

end UsbServiceSubscriber

/-- Handle a report. -/
def Report.handle (usbd : Usbd) (outside : Outside) :
    Report → ServiceState → Prog Fault (Uec × ServiceState)
  | deviceEvent info, s => UsbServiceSubscriber.deviceEvent usbd outside info s
  | portChangedEvent portId powerRole dataRole mode, s =>
    pure (UsbServiceSubscriber.portChangedEvent outside portId powerRole dataRole mode s)

/-! ## Runs -/

/-- A process calls the service, or usbd reports something; with what is returned. -/
inductive ServiceLabel where
  | call (caller : Option String) (outside : Outside) (call : SrvCall) (reply : SrvReply)
  | report (outside : Outside) (report : Report) (ret : Uec)
  deriving DecidableEq, Repr

/-- A call or a report is handled. -/
inductive ServiceStep (usbd : Usbd) (invalid : UInt32) (s : ServiceState) :
    ServiceLabel → ServiceState → Prop
  | call {caller : Option String} {outside : Outside} {call : SrvCall} :
    ServiceStep usbd invalid s
      (.call caller outside call (UsbService.whole usbd invalid outside caller call s).1)
      (UsbService.whole usbd invalid outside caller call s).2
  | report {outside : Outside} {report : Report} {ret : Uec} {s' : ServiceState} :
    (report.handle usbd outside s).Returns (ret, s') →
    ServiceStep usbd invalid s (.report outside report ret) s'

/-- The service after `OnStart`, where usbd has answered the first query of the ports. -/
def ServiceState.started (reply : QueryReply) : ServiceState :=
  ({}, { portManager := UsbPortManager.init reply {} })

/-! ## The ports -/

namespace UsbPortManager

variable {m : UsbPortManager}

theorem size_addPort (none : m.portMap.size = 0) (port : UsbPort) :
    (m.addPort port).portMap.size ≤ 1 := by
  have size := Std.TreeMap.size_insertIfNew_le (t := m.portMap) (k := port.id) (v := port)
  change (m.portMap.insertIfNew port.id port).size ≤ 1
  omega

/-- A query adds a port to none. -/
theorem size_queryPort (none : m.portMap.size = 0) (reply : QueryReply) :
    (m.queryPort reply).2.portMap.size ≤ 1 := by
  unfold queryPort
  split
  · exact none.trans_le (Nat.zero_le 1)
  · exact size_addPort none _

/-- `GetPorts` makes a query only where no port is known. -/
theorem size_getPorts (few : m.portMap.size ≤ 1) (reply : QueryReply) (ports : List UsbPort) :
    (m.getPorts reply ports).2.portMap.size ≤ 1 := by
  unfold getPorts
  by_cases some : m.portMap.size > 0
  · rw [if_pos some]
    exact few
  · rw [if_neg some]
    have queried := size_queryPort (Nat.eq_zero_of_not_pos some) reply
    dsimp only
    split
    · exact queried
    · exact queried

/-- A notification changes a port that is known. -/
theorem size_updatePort (portId powerRole dataRole mode : Int32) :
    (m.updatePort portId powerRole dataRole mode).portMap.size = m.portMap.size := by
  unfold updatePort
  cases stored : m.portMap[portId]? with
  | none => rfl
  | some port =>
    dsimp only
    split
    · have there : m.portMap.contains portId = true := by
        rw [Std.TreeMap.contains_eq_isSome_getElem?, stored]
        rfl
      change (m.portMap.insert portId _).size = _
      rw [Std.TreeMap.size_insert, if_pos there]
    · rfl

/-- The ports that are listed are those of the map after the query. -/
theorem length_getPorts (few : m.portMap.size ≤ 1) (reply : QueryReply) :
    (m.getPorts reply []).1.2.length ≤ 1 := by
  have after := size_getPorts few reply []
  rw [getPorts_eq] at after ⊢
  dsimp only at after ⊢
  split
  · rw [List.length_map, Std.TreeMap.length_toList]
    exact after
  · exact Nat.zero_le 1

end UsbPortManager

/-! ## What a call does -/

namespace UsbService

variable {usbd : Usbd} {invalid : UInt32} {outside : Outside} {caller : Option String}
  {call : SrvCall} {s : ServiceState}

/-- A request for a right changes the rights only. -/
theorem requestRightToEnd_frame (deviceName : String) (w : World) :
    (requestRightToEnd outside caller deviceName w).2.calls = w.calls ∧
      (requestRightToEnd outside caller deviceName w).2.hostManager = w.hostManager := by
  unfold requestRightToEnd
  cases caller with
  | none => exact ⟨rfl, rfl⟩
  | some bundleName =>
    rcases asked : w.rightManager.requestRight deviceName bundleName outside.dialogId with
      ⟨ret, rightManager⟩
    simp only [requestRight, asked]
    cases ret with
    | some ret => exact ⟨rfl, rfl⟩
    | none => exact ⟨rfl, rfl⟩

/-- While no dialog is open the user is asked for each right that is not there. -/
theorem requestRightToEnd_some {w : World} (idle : w.rightManager.dialogId < 0)
    (deviceName bundleName : String) :
    requestRightToEnd outside (some bundleName) deviceName w =
      if w.rightManager.hasRight deviceName bundleName then (.UEC_OK, w)
      else requestRightAnswered bundleName deviceName outside.event
        { w with rightManager := { w.rightManager with dialogId := outside.dialogId } } := by
  have closed : ¬ w.rightManager.dialogId ≥ 0 := Int32.not_le.mpr idle
  unfold requestRightToEnd requestRight RightManager.requestRight
  cases right : w.rightManager.hasRight deviceName bundleName with
  | true => simp [right]
  | false => simp [right, closed]

/-- What a request for a right leaves of the rights: the user may have allowed it. -/
theorem requestRightToEnd_rights {w : World} (idle : w.rightManager.dialogId < 0)
    (deviceName : String) :
    (requestRightToEnd outside caller deviceName w).2.rightManager.dialogId < 0 ∧
      ∀ name bundle,
        (requestRightToEnd outside caller deviceName w).2.rightManager.hasRight name bundle =
            true ↔
          w.rightManager.hasRight name bundle = true ∨
            outside.event = "EVENT_ALLOW" ∧ caller = some bundle ∧ name = deviceName := by
  cases caller with
  | none => exact ⟨idle, fun name bundle => by simp [requestRightToEnd]⟩
  | some bundleName =>
    rw [requestRightToEnd_some idle]
    cases right : w.rightManager.hasRight deviceName bundleName with
    | true =>
      rw [if_pos rfl]
      refine ⟨idle, fun name bundle => ⟨.inl, fun held => ?_⟩⟩
      rcases held with held | ⟨_, same, rfl⟩
      · exact held
      · cases same
        exact right
    | false =>
      rw [if_neg Bool.false_ne_true]
      have closed : (-1 : Int32) < 0 := by decide
      let asked : RightManager := { w.rightManager with dialogId := outside.dialogId }
      have absent : asked.hasRight deviceName bundleName = false := right
      change (asked.requestRightAnswered deviceName bundleName outside.event).2.dialogId < 0 ∧
        ∀ name bundle,
          (asked.requestRightAnswered deviceName bundleName outside.event).2.hasRight name bundle =
            true ↔ _
      by_cases allowed : outside.event = "EVENT_ALLOW"
      · rw [allowed, RightManager.requestRightAnswered_of_allowed absent]
        refine ⟨closed, fun name bundle => ?_⟩
        refine (asked.hasRight_addDeviceRight deviceName bundleName).trans (or_congr Iff.rfl ?_)
        simp [and_comm, eq_comm]
      · rw [RightManager.requestRightAnswered_of_refused allowed]
        refine ⟨closed, fun name bundle => ⟨.inl, fun held => ?_⟩⟩
        rcases held with held | ⟨agreed, _⟩
        · exact held
        · exact absurd agreed allowed

/-- No call changes the devices that are stored, or what was announced of them. -/
theorem whole_hostManager :
    (whole usbd invalid outside caller call s).2.1.hostManager = s.1.hostManager := by
  cases call with
  | onDevice request => exact (request.serve_managers usbd caller s.1).1
  | removeRight deviceName => exact removeRight_hostManager deviceName s.1
  | requestRight deviceName => exact (requestRightToEnd_frame deviceName s.1).2
  | _ => rfl

/-- What a call asks of usbd.  `OpenDevice` asks only for a caller with the right. -/
def forwards (caller : Option String) (w : World) : SrvCall → List UsbdCall
  | .onDevice (.openDevice busNum devAddr) =>
    if hasRight caller (deviceName busNum devAddr) w then [.OpenDevice ⟨busNum, devAddr⟩] else []
  | .onDevice request => request.forwarded.toList
  | _ => []

theorem whole_calls :
    (whole usbd invalid outside caller call s).2.1.calls =
      s.1.calls ++ forwards caller s.1 call := by
  have silent : s.1.calls = s.1.calls ++ [] := (List.append_nil _).symm
  cases call with
  | onDevice request =>
    by_cases checks : request.checksRight = true
    · cases request with
      | openDevice busNum devAddr =>
        change ((DeviceRequest.openDevice busNum devAddr).serve usbd caller s.1).2.calls = _
        have asks : forwards caller s.1 (.onDevice (.openDevice busNum devAddr)) =
            if hasRight caller (deviceName busNum devAddr) s.1 then
              [.OpenDevice ⟨busNum, devAddr⟩]
            else [] := rfl
        rw [DeviceRequest.serve_openDevice, asks]
        split
        · rfl
        · exact silent
      | _ => cases checks
    · change (request.serve usbd caller s.1).2.calls = _
      rw [DeviceRequest.serve_of_unchecked usbd caller s.1 (Bool.eq_false_iff.mpr checks)]
      cases request with
      | openDevice => exact absurd rfl checks
      | _ => rfl
  | removeRight deviceName =>
    refine Eq.trans ?_ silent
    change (removeRight deviceName s.1).2.calls = s.1.calls
    unfold removeRight
    dsimp only
    split <;> rfl
  | requestRight deviceName => exact (requestRightToEnd_frame deviceName s.1).1.trans silent
  | _ => exact silent

/-- The rights that a call leaves. -/
theorem whole_rights (idle : s.1.rightManager.dialogId < 0) :
    (whole usbd invalid outside caller call s).2.1.rightManager.dialogId < 0 ∧
      ∀ name bundle,
        (whole usbd invalid outside caller call s).2.1.rightManager.hasRight name bundle = true ↔
          call ≠ .removeRight name ∧ s.1.rightManager.hasRight name bundle = true ∨
            outside.event = "EVENT_ALLOW" ∧ caller = some bundle ∧ call = .requestRight name := by
  have same (kept : (whole usbd invalid outside caller call s).2.1.rightManager =
      s.1.rightManager) (notRequested : ∀ name, call ≠ .requestRight name)
      (notRemoved : ∀ name, call ≠ .removeRight name) :
      (whole usbd invalid outside caller call s).2.1.rightManager.dialogId < 0 ∧
        ∀ name bundle,
          (whole usbd invalid outside caller call s).2.1.rightManager.hasRight name bundle =
              true ↔
            call ≠ .removeRight name ∧ s.1.rightManager.hasRight name bundle = true ∨
              outside.event = "EVENT_ALLOW" ∧ caller = some bundle ∧
                call = .requestRight name := by
    rw [kept]
    exact ⟨idle, fun name bundle => by simp [notRequested, notRemoved]⟩
  cases call with
  | onDevice request => exact same (request.serve_managers usbd caller s.1).2 nofun nofun
  | removeRight deviceName =>
    have removed := removeRight_rightManager deviceName s.1
    change (removeRight deviceName s.1).2.rightManager.dialogId < 0 ∧ ∀ name bundle,
      (removeRight deviceName s.1).2.rightManager.hasRight name bundle = true ↔ _
    rw [removed]
    refine ⟨?_, fun name bundle => ?_⟩
    · unfold RightManager.removeDeviceRight
      split
      · exact idle
      · exact idle
    · refine (s.1.rightManager.hasRight_removeDeviceRight deviceName).trans
        ⟨fun held => .inl ⟨fun same => held.1 (SrvCall.removeRight.inj same).symm, held.2⟩,
          fun held => ?_⟩
      rcases held with ⟨other, held⟩ | ⟨_, _, same⟩
      · exact ⟨fun same => other (same ▸ rfl), held⟩
      · cases same
  | requestRight deviceName =>
    obtain ⟨closed, rights⟩ := @requestRightToEnd_rights outside caller s.1 idle deviceName
    refine ⟨closed, fun name bundle => (rights name bundle).trans (or_congr ?_ ?_)⟩
    · exact ⟨fun held => ⟨nofun, held⟩, fun held => held.2⟩
    · refine and_congr_right fun _ => and_congr_right fun _ => ?_
      exact ⟨fun same => same ▸ rfl, fun same => (SrvCall.requestRight.inj same).symm⟩
  | _ => exact same rfl nofun nofun

/-- The ports that a call leaves. -/
theorem whole_ports (few : s.2.portManager.portMap.size ≤ 1) :
    (whole usbd invalid outside caller call s).2.2.portManager.portMap.size ≤ 1 := by
  cases call with
  | getPorts => exact UsbPortManager.size_getPorts few outside.queryPort []
  | _ => exact few

/-! ## What a report does -/

/-- Attaching a device changes no right.  What it stores was read of a descriptor. -/
theorem addDevice_stores {busNum devAddr : UInt8} {w w' : World} {ret : Bool}
    (returned : (addDevice usbd busNum devAddr w).Returns (ret, w')) :
    w'.rightManager = w.rightManager ∧ (w'.hostManager = w.hostManager ∨ ∃ dev w₁,
      (getDeviceInfo usbd busNum devAddr zeroDevice w).Returns ((.UEC_OK, dev), w₁) ∧
        w'.hostManager = (w.hostManager.addDevice dev).2) := by
  obtain ⟨⟨⟨ret₁, dev⟩, w₁⟩, info, rest⟩ := Prog.returns_bind.mp returned
  have same := sameManagers_getDeviceInfo info
  rcases Prog.returns_ite.mp rest with ⟨_, rest⟩ | ⟨ok, rest⟩
  · cases Prog.returns_pure.mp rest
    exact ⟨same.2, .inl same.1⟩
  · cases Prog.returns_pure.mp rest
    obtain rfl := not_not.mp ok
    refine ⟨same.2, .inr ⟨dev, w₁, info, ?_⟩⟩
    change (w₁.hostManager.addDevice dev).2 = _
    rw [same.1]

theorem delDevice_frame (busNum devAddr : UInt8) (w : World) :
    (delDevice usbd busNum devAddr w).2.rightManager = w.rightManager ∧
      (delDevice usbd busNum devAddr w).2.hostManager =
        (w.hostManager.delDevice busNum devAddr).2 := ⟨rfl, rfl⟩

end UsbService

open UsbService

section

variable {usbd : Usbd} {invalid : UInt32} {outside : Outside} {s s' : ServiceState}

/-- A report changes no right, and stores a device that was read, deletes one or leaves
the devices as they are. -/
theorem Report.handle_cases {report : Report} {ret : Uec}
    (returned : (report.handle usbd outside s).Returns (ret, s')) :
    s'.1.rightManager = s.1.rightManager ∧
      s'.2.portManager.portMap.size = s.2.portManager.portMap.size ∧
      (s'.1.hostManager = s.1.hostManager ∨
        (∃ busNum devAddr dev w₁,
          (getDeviceInfo usbd busNum devAddr zeroDevice s.1).Returns ((.UEC_OK, dev), w₁) ∧
            s'.1.hostManager = (s.1.hostManager.addDevice dev).2) ∨
        ∃ busNum devAddr, s'.1.hostManager = (s.1.hostManager.delDevice busNum devAddr).2) := by
  obtain ⟨w, managers⟩ := s
  cases report with
  | portChangedEvent portId powerRole dataRole mode =>
    cases Prog.returns_pure.mp returned
    exact ⟨rfl, UsbPortManager.size_updatePort portId powerRole dataRole mode, .inl rfl⟩
  | deviceEvent info =>
    rcases Prog.returns_ite.mp returned with ⟨_, told⟩ | ⟨_, other⟩
    · cases Prog.returns_pure.mp told
      exact ⟨rfl, rfl, .inl rfl⟩
    · rcases Prog.returns_ite.mp other with ⟨_, up⟩ | ⟨_, down⟩
      · obtain ⟨⟨added, w'⟩, first, rest⟩ := Prog.returns_bind.mp up
        cases Prog.returns_pure.mp rest
        obtain ⟨rights, kept | ⟨dev, w₁, info, stored⟩⟩ := addDevice_stores first
        · exact ⟨rights, rfl, .inl kept⟩
        · exact ⟨rights, rfl, .inr (.inl ⟨_, _, dev, w₁, info, stored⟩)⟩
      · cases Prog.returns_pure.mp down
        exact ⟨rfl, rfl, .inr (.inr ⟨_, _, rfl⟩)⟩

/-! ## What holds in every run -/

/-- The service between two calls or reports. -/
structure ServiceState.Sound (s : ServiceState) : Prop where
  /-- No dialog is open. -/
  idle : s.1.rightManager.dialogId < 0
  /-- At most one port is known. -/
  ports : s.2.portManager.portMap.size ≤ 1
  /-- Each device is stored under its own name, and was read of a descriptor. -/
  devices : ∀ (name : String) (dev : UsbDevice), s.1.hostManager.devices[name]? = some dev →
    name = deviceName dev.busNum dev.devAddr ∧ dev.Countable ∧ dev.Consistent

theorem ServiceState.Sound.start (reply : QueryReply) : (started reply).Sound where
  idle := by
    change (-1 : Int32) < 0
    decide
  ports := UsbPortManager.size_queryPort (m := {}) rfl reply
  devices name dev there := by
    have absent : (({} : HostManager).devices)[name]? = none := Std.TreeMap.getElem?_emptyc
    exact absurd (there.symm.trans absent) nofun

theorem ServiceState.Sound.step {label : ServiceLabel} (sound : s.Sound)
    (step : ServiceStep usbd invalid s label s') : s'.Sound := by
  cases step with
  | call => exact
    { idle := (whole_rights sound.idle).1
      ports := whole_ports sound.ports
      devices := fun name dev there => sound.devices name dev (whole_hostManager ▸ there) }
  | report returned =>
    obtain ⟨rights, ports, devices⟩ := Report.handle_cases returned
    refine ⟨rights ▸ sound.idle, ports ▸ sound.ports, fun name dev there => ?_⟩
    rcases devices with kept | ⟨busNum, devAddr, added, w₁, info, stored⟩ |
      ⟨busNum, devAddr, deleted⟩
    · exact sound.devices name dev (kept ▸ there)
    · rw [stored, HostManager.getElem?_addDevice] at there
      split at there
      · cases there
        exact ⟨by assumption, countable_of_info info, consistent_of_info info⟩
      · exact sound.devices name dev there
    · rw [deleted, HostManager.getElem?_delDevice] at there
      split at there
      · cases there
      · exact sound.devices name dev there

/-- The service is sound in every run. -/
theorem ServiceState.sound {reply : QueryReply} {history : List ServiceLabel}
    (run : Run (ServiceStep usbd invalid) (started reply) history s) : s.Sound :=
  run.preserves (.start reply) fun _ _ _ sound step => sound.step step

end

end UsbManager
