import Mathlib.Data.List.Induction
import UsbManager.Interface
import UsbManager.Lib.Run
import UsbManager.Lib.Table

/-!
# `usb_port_manager.cpp`

`UsbPortManager` learns of the ports from `QueryPort`, which is asked when the
service starts and as long as no port is known, and from the notifications
`UpdatePort`.  A query adds a port that is not known and never changes one, a
notification changes a port that is known and never adds one: `listed` says what
`GetPorts` lists.  What usbd answers to a query is part of the event.
-/

namespace UsbManager

/-- The answer of usbd to `QueryPort`. -/
structure QueryReply where
  ret : Uec
  portId : Int32
  powerRole : Int32
  dataRole : Int32
  mode : Int32
  deriving DecidableEq, Repr

/-- A report of a port: by a query or by a notification. -/
inductive PortReport where
  | queried (portId : Int32) (status : UsbPortStatus)
  | changed (portId : Int32) (status : UsbPortStatus)
  deriving DecidableEq, Repr

namespace PortReport

/-- What a query has reported of this port. -/
def queried? (id : Int32) : PortReport → Option UsbPortStatus
  | queried portId status => if portId = id then some status else none
  | changed _ _ => none

/-- What a notification has reported of this port. -/
def changed? (id : Int32) : PortReport → Option UsbPortStatus
  | queried _ _ => none
  | changed portId status => if portId = id then some status else none

/-- What either has reported of this port. -/
def about (id : Int32) (report : PortReport) : Option UsbPortStatus :=
  (report.queried? id).or (report.changed? id)

end PortReport

/-- What an answer reports. -/
def QueryReply.reports (reply : QueryReply) : List PortReport :=
  if reply.ret = .UEC_OK then [.queried reply.portId ⟨reply.mode, reply.powerRole, reply.dataRole⟩]
  else []

structure UsbPortManager where
  portMap : Std.TreeMap Int32 UsbPort := {}

namespace UsbPortManager

def SUPPORTED_MODES : Int32 := 3

/-- `AddPort` -/
def addPort (port : UsbPort) (m : UsbPortManager) : UsbPortManager :=
  { m with portMap := m.portMap.insertIfNew port.id port }

/-- `QueryPort` -/
def queryPort (reply : QueryReply) (m : UsbPortManager) : Uec × UsbPortManager :=
  if reply.ret ≠ .UEC_OK then (reply.ret, m)
  else
    let usbPortStatus : UsbPortStatus :=
      { currentMode := reply.mode
        currentDataRole := reply.dataRole
        currentPowerRole := reply.powerRole }
    let usbPort : UsbPort :=
      { id := reply.portId, supportedModes := SUPPORTED_MODES, usbPortStatus }
    (reply.ret, m.addPort usbPort)

/-- `Init` -/
def init (reply : QueryReply) (m : UsbPortManager) : UsbPortManager := (m.queryPort reply).2

/-- `GetPorts`: the result, the ports appended to those the caller passed. -/
def getPorts (reply : QueryReply) (ports : List UsbPort) (m : UsbPortManager) :
    (Uec × List UsbPort) × UsbPortManager :=
  if m.portMap.size > 0 then
    ((.UEC_OK, ports ++ m.portMap.toList.map Prod.snd), m)
  else
    let (ret, m) := m.queryPort reply
    if ret = .UEC_OK then ((ret, ports ++ m.portMap.toList.map Prod.snd), m)
    else ((.UEC_SERVICE_INVALID_VALUE, ports), m)

/-- `UpdatePort` -/
def updatePort (portId powerRole dataRole mode : Int32) (m : UsbPortManager) : UsbPortManager :=
  match m.portMap[portId]? with
  | none => m
  | some port =>
    if port.id = portId then
      { m with
        portMap := m.portMap.insert portId
          { port with
            usbPortStatus := {
              currentPowerRole := powerRole, currentDataRole := dataRole, currentMode := mode } } }
    else m

/-! ## Runs -/

/-- The service starts, a port is reported to have changed, or the ports are asked for. -/
inductive Event where
  | start (reply : QueryReply)
  | portChanged (portId powerRole dataRole mode : Int32)
  | getPorts (reply : QueryReply)
  deriving DecidableEq, Repr

def step (m : UsbPortManager) : Event → UsbPortManager
  | .start reply => m.init reply
  | .portChanged portId powerRole dataRole mode => m.updatePort portId powerRole dataRole mode
  | .getPorts reply => (m.getPorts reply []).2

/-- What an event reports: `GetPorts` makes a query only where no port is known. -/
def reportsOf (m : UsbPortManager) : Event → List PortReport
  | .start reply => reply.reports
  | .portChanged portId powerRole dataRole mode => [.changed portId ⟨mode, powerRole, dataRole⟩]
  | .getPorts reply => if m.portMap.size > 0 then [] else reply.reports

/-- The state after a run, and all that was reported in it, oldest first. -/
def run (history : List Event) : UsbPortManager × List PortReport :=
  history.foldl (fun (m, reports) event => (m.step event, reports ++ m.reportsOf event)) ({}, [])

/-- A successful `GetPorts` after the run lists every port that was reported exactly
once, with the status of the most recent report. -/
def LatestWins (history : List Event) : Prop :=
  ∀ reply ports m', (run history).1.getPorts reply [] = ((.UEC_OK, ports), m') →
    ∀ id status,
      lastSome (PortReport.about id)
          ((run history).2 ++ (run history).1.reportsOf (.getPorts reply)) = some status →
      ∃ port, ports.filter (·.id = id) = [port] ∧ port.usbPortStatus = status

/-- What the first query of a port has reported, or the last notification since then. -/
def known (id : Int32) : List PortReport → Option UsbPortStatus
  | [] => none
  | report :: later =>
    match report.queried? id with
    | some status => some ((lastSome (PortReport.changed? id) later).getD status)
    | none => known id later

/-- A successful `GetPorts` after the run lists exactly the ports that a query has
reported, each once. -/
def ListsKnown (history : List Event) : Prop :=
  ∀ reply ports m', (run history).1.getPorts reply [] = ((.UEC_OK, ports), m') →
    ∀ id, ports.filter (·.id = id) =
      (known id ((run history).2 ++ (run history).1.reportsOf (.getPorts reply))).toList.map
        fun status => ⟨id, SUPPORTED_MODES, status⟩

/-! ## One report -/

/-- What a report does to the map. -/
def apply (m : UsbPortManager) : PortReport → UsbPortManager
  | .queried portId status => m.addPort ⟨portId, SUPPORTED_MODES, status⟩
  | .changed portId status =>
    m.updatePort portId status.currentPowerRole status.currentDataRole status.currentMode

theorem queryPort_eq (reply : QueryReply) (m : UsbPortManager) :
    m.queryPort reply = (reply.ret, reply.reports.foldl apply m) := by
  unfold queryPort QueryReply.reports
  by_cases ok : reply.ret = .UEC_OK
  · rw [if_neg (not_not.mpr ok), if_pos ok]
    rfl
  · rw [if_pos ok, if_neg ok]
    rfl

/-- `GetPorts` lists the map after its query. -/
theorem getPorts_eq (m : UsbPortManager) (reply : QueryReply) :
    m.getPorts reply [] =
      (if m.portMap.size > 0 ∨ reply.ret = .UEC_OK then
          (.UEC_OK,
            ((m.reportsOf (.getPorts reply)).foldl apply m).portMap.toList.map Prod.snd)
        else (.UEC_SERVICE_INVALID_VALUE, []),
        (m.reportsOf (.getPorts reply)).foldl apply m) := by
  unfold getPorts reportsOf
  dsimp only
  by_cases some : m.portMap.size > 0
  · rw [if_pos some, if_pos some, if_pos (Or.inl some)]
    rfl
  · rw [if_neg some, if_neg some, queryPort_eq]
    by_cases ok : reply.ret = .UEC_OK
    · rw [if_pos ok, if_pos (Or.inr ok), ok]
      rfl
    · have failed : ¬ (m.portMap.size > 0 ∨ reply.ret = .UEC_OK) := not_or.mpr ⟨some, ok⟩
      rw [if_neg ok, if_neg failed]

theorem step_eq (m : UsbPortManager) (event : Event) :
    m.step event = (m.reportsOf event).foldl apply m := by
  cases event with
  | start reply => exact congrArg Prod.snd (queryPort_eq reply m)
  | portChanged portId powerRole dataRole mode => rfl
  | getPorts reply => exact congrArg Prod.snd (getPorts_eq m reply)

/-- The map holds what is known of each port. -/
def Holds (m : UsbPortManager) (reports : List PortReport) : Prop :=
  ∀ id, m.portMap[id]? = (known id reports).map fun status => ⟨id, SUPPORTED_MODES, status⟩

theorem known_concat (id : Int32) (reports : List PortReport) (report : PortReport) :
    known id (reports ++ [report]) =
      match known id reports with
      | none => report.queried? id
      | some status => some ((report.changed? id).getD status) := by
  induction reports with
  | nil =>
    rw [List.nil_append, known, known, known]
    cases report.queried? id with
    | none => rfl
    | some status => rfl
  | cons first later ih =>
    rw [List.cons_append, known, known]
    cases first.queried? id with
    | none => exact ih
    | some status =>
      dsimp only
      rw [lastSome_concat]
      cases report.changed? id with
      | none => rfl
      | some status' => rfl

/-- A notification changes a port that is stored under its id, and no other. -/
theorem getElem?_updatePort (m : UsbPortManager) (portId powerRole dataRole mode id : Int32) :
    (m.updatePort portId powerRole dataRole mode).portMap[id]? =
      if id = portId then
        m.portMap[portId]?.map fun port =>
          if port.id = portId then { port with usbPortStatus := ⟨mode, powerRole, dataRole⟩ }
          else port
      else m.portMap[id]? := by
  unfold updatePort
  cases stored : m.portMap[portId]? with
  | none =>
    by_cases same : id = portId
    · rw [if_pos same, same, stored]
      rfl
    · rw [if_neg same]
  | some port =>
    dsimp only [Option.map_some]
    by_cases own : port.id = portId
    · rw [if_pos own, if_pos own, Table.getElem?_insert]
    · rw [if_neg own, if_neg own]
      by_cases same : id = portId
      · rw [if_pos same, same, stored]
      · rw [if_neg same]

theorem Holds.apply {m : UsbPortManager} {reports : List PortReport} (holds : Holds m reports)
    (report : PortReport) : Holds (m.apply report) (reports ++ [report]) := by
  intro id
  rw [known_concat]
  cases report with
  | queried portId status =>
    change (m.portMap.insertIfNew portId _)[id]? = _
    rw [Table.getElem?_insertIfNew]
    by_cases same : id = portId
    · subst same
      rw [if_pos rfl, holds id]
      cases known id reports with
      | none => simp [PortReport.queried?]
      | some status' => rfl
    · have other : ¬ portId = id := fun eq => same eq.symm
      rw [if_neg same, holds id]
      cases known id reports with
      | none => simp [PortReport.queried?, other]
      | some status' => rfl
  | changed portId status =>
    change (m.updatePort portId _ _ _).portMap[id]? = _
    rw [getElem?_updatePort]
    by_cases same : id = portId
    · subst same
      rw [if_pos rfl, holds id]
      cases known id reports with
      | none => rfl
      | some status' => simp [PortReport.changed?]
    · have other : ¬ portId = id := fun eq => same eq.symm
      rw [if_neg same, holds id]
      cases known id reports with
      | none => rfl
      | some status' => simp [PortReport.changed?, other]

theorem Holds.foldl {more : List PortReport} :
    ∀ {m : UsbPortManager} {reports : List PortReport}, Holds m reports →
      Holds (more.foldl UsbPortManager.apply m) (reports ++ more) := by
  induction more with
  | nil =>
    intro m reports holds
    rwa [List.append_nil]
  | cons report more ih =>
    intro m reports holds
    have next := ih (holds.apply report)
    rwa [List.append_assoc] at next

theorem Holds.run (history : List Event) : Holds (run history).1 (run history).2 := by
  induction history using List.reverseRecOn with
  | nil => exact fun id => by simp [UsbPortManager.run, known]
  | append_singleton history event ih =>
    unfold UsbPortManager.run
    rw [List.foldl_append]
    change Holds ((UsbPortManager.run history).1.step event) _
    rw [step_eq]
    exact ih.foldl

/-! ## What is listed -/

/-- A successful `GetPorts` lists exactly the ports a query has reported, each once:
with the status of the last notification since its first query, or of that query. -/
theorem listed (history : List Event) : ListsKnown history := by
  intro reply ports m' listed id
  rw [getPorts_eq] at listed
  have holds := @Holds.foldl ((run history).1.reportsOf (.getPorts reply)) _ _ (.run history)
  split at listed
  · cases listed
    rw [Table.filter_map_toList _ _ _ id, holds id]
    · cases known id ((run history).2 ++ (run history).1.reportsOf (.getPorts reply)) with
      | none => rfl
      | some status => rfl
    · intro entry there
      have found := Std.TreeMap.mem_toList_iff_getElem?_eq_some.mp there
      rw [holds entry.1] at found
      obtain ⟨status, _, same⟩ := Option.map_eq_some_iff.mp found
      rw [← same]
  · cases listed

/-- The service is started again, and the second answer to its query is not listed. -/
theorem not_latestWins_restarted :
    ¬ LatestWins [.start ⟨.UEC_OK, 1, 1, 1, 1⟩, .start ⟨.UEC_OK, 1, 2, 2, 2⟩] := by
  intro latest
  let m := (run [.start ⟨.UEC_OK, 1, 1, 1, 1⟩, .start ⟨.UEC_OK, 1, 2, 2, 2⟩]).1
  have asked : (m.getPorts ⟨.UEC_OK, 0, 0, 0, 0⟩ []).1 = (.UEC_OK, [⟨1, 3, ⟨1, 1, 1⟩⟩]) := by
    decide +kernel
  obtain ⟨port, there, same⟩ := latest ⟨.UEC_OK, 0, 0, 0, 0⟩ [⟨1, 3, ⟨1, 1, 1⟩⟩] _
    (Prod.ext asked rfl) 1 ⟨2, 2, 2⟩ (by decide +kernel)
  cases there
  exact absurd same (by decide)

end UsbPortManager

end UsbManager
