import Detector.CounterFiles

/-!
# The 22 diagnostic counters

`IbDiagPerfCounter` reads the diagnostic counters of a device or of one of its ports from the
file system. It is the same machine as `IbPortCompat` with other tables, no scaling, and a test
of each stream in `ResetCounters`.
-/
namespace Detector

open Cpp

/-- The counter variables, in the order of their declaration. -/
inductive DiagVar where
  | lifespan | rqLocalLengthErrors | rqLocalProtectionErrors | rqLocalQpProtectionErrors
  | rqOutOfSequenceErrors | rqRemoteAccessErrors | rqRemoteInvalidRequestErrors | rqRnrNakNum
  | rqCompletionQueueEntryErrors | sqBadResponseErrors | sqLocalLengthErrors
  | sqLocalProtectionErrors | sqLocalQpProtectionErrors | sqMemoryWindowBindErrors
  | sqOutOfSequenceErrors | sqRemoteAccessErrors | sqRemoteInvalidRequestErrors | sqRnrNakNum
  | sqRemoteOperationErrors | sqRnrNakRetriesExceededErrors
  | sqTransportRetriesExceededErrors | sqCompletionQueueEntryErrors
  deriving DecidableEq

structure IbDiagPerfCounter extends FileCounters DiagVar 22 where
  deviceName : String
  portNumber : UInt8

namespace IbDiagPerfCounter

/-- The directory that the constructor opens its files in; port 0 is the whole device. -/
def counterPath (deviceName : String) (portNumber : UInt8) : String :=
  "/sys/class/infiniband/" ++ deviceName ++
    (if portNumber > 0 then "/ports/" ++ toString portNumber.toNat ++ "/hw_counters/"
     else "/hw_counters/")

/-- The names that the constructor gives to `m_files[0]` to `m_files[21]`. -/
def fileNames : List String :=
  ["lifespan", "rq_num_lle", "rq_num_lpe", "rq_num_lqpoe", "rq_num_oos", "rq_num_rae",
   "rq_num_rire", "rq_num_rnr", "rq_num_wrfe", "sq_num_bre", "sq_num_lle", "sq_num_lpe",
   "sq_num_lqpoe", "sq_num_mwbe", "sq_num_oos", "sq_num_rae", "sq_num_rire", "sq_num_rnr",
   "sq_num_roe", "sq_num_rree", "sq_num_tree", "sq_num_wrfe"]

theorem length_fileNames : 22 = fileNames.length := rfl

/-- The constructor. -/
def create (readable : String → Bool) (deviceName : String) (portNumber : UInt8) :
    Method ℕ IbDiagPerfCounter := do
  let path := counterPath deviceName portNumber
  let files : Fin 22 → InStream := fun i =>
    InStream.ofFile readable (path ++ fileNames.get (i.cast length_fileNames))
  Eff.ensure ((List.finRange 22).all fun i => (files i).isOpen)
    (.ibFileException "Unable to open file!")
  return {
    counters := fun _ => 0
    deviceName := deviceName
    portNumber := portNumber
    reader := ⟨CharBuffer.zeroed 128, files, fun _ => 0⟩ }

/-- The assignments of `RefreshCounters`. -/
def table : CounterTable DiagVar 22 where
  entries :=
    [(.lifespan, 0), (.rqLocalLengthErrors, 1), (.rqLocalProtectionErrors, 2),
     (.rqLocalQpProtectionErrors, 3), (.rqOutOfSequenceErrors, 4), (.rqRemoteAccessErrors, 5),
     (.rqRemoteInvalidRequestErrors, 6), (.rqRnrNakNum, 7), (.rqCompletionQueueEntryErrors, 8),
     (.sqBadResponseErrors, 9), (.sqLocalLengthErrors, 10), (.sqLocalProtectionErrors, 11),
     (.sqLocalQpProtectionErrors, 12), (.sqMemoryWindowBindErrors, 13),
     (.sqOutOfSequenceErrors, 14), (.sqRemoteAccessErrors, 15),
     (.sqRemoteInvalidRequestErrors, 16), (.sqRnrNakNum, 17), (.sqRemoteOperationErrors, 18),
     (.sqRnrNakRetriesExceededErrors, 19), (.sqTransportRetriesExceededErrors, 20),
     (.sqCompletionQueueEntryErrors, 21)]
  index_nodup := by decide
  variable_nodup := by decide
  variable_complete v := by cases v <;> decide
  index_complete := by decide

/-- The members that the file operations work on. -/
def withFileCounters (o : IbDiagPerfCounter) (s : FileCounters DiagVar 22) :
    IbDiagPerfCounter :=
  { o with toFileCounters := s }

def resetCounters (io : Reads) : Method IbDiagPerfCounter Unit :=
  Eff.focus toFileCounters withFileCounters (FileCounters.resetWith true io)

def refreshCounters (io : Reads) : Method IbDiagPerfCounter Unit :=
  Eff.focus toFileCounters withFileCounters
    (FileCounters.refreshWith table (fun _ x => x) io)

/-! ## The class of file counters that it is -/

def fileClass : FileClass DiagVar 22 := ⟨table, fun _ x => x, true⟩

/-- A call of one of the two member functions. -/
def call (c : CounterOp × Reads) : Method IbDiagPerfCounter Unit :=
  match c.1 with
  | .reset => resetCounters c.2
  | .refresh => refreshCounters c.2

theorem run_call (c : CounterOp × Reads) (o : IbDiagPerfCounter) :
    (call c).run o =
      ⟨((fileClass.call c).run o.toFileCounters).result,
        o.withFileCounters ((fileClass.call c).run o.toFileCounters).state,
        ((fileClass.call c).run o.toFileCounters).calls⟩ := by
  obtain ⟨op, io⟩ := c
  cases op <;> rfl

/-- The file that the kernel keeps each counter in. -/
def fileOf : DiagVar → String
  | .lifespan => "lifespan"
  | .rqLocalLengthErrors => "rq_num_lle"
  | .rqLocalProtectionErrors => "rq_num_lpe"
  | .rqLocalQpProtectionErrors => "rq_num_lqpoe"
  | .rqOutOfSequenceErrors => "rq_num_oos"
  | .rqRemoteAccessErrors => "rq_num_rae"
  | .rqRemoteInvalidRequestErrors => "rq_num_rire"
  | .rqRnrNakNum => "rq_num_rnr"
  | .rqCompletionQueueEntryErrors => "rq_num_wrfe"
  | .sqBadResponseErrors => "sq_num_bre"
  | .sqLocalLengthErrors => "sq_num_lle"
  | .sqLocalProtectionErrors => "sq_num_lpe"
  | .sqLocalQpProtectionErrors => "sq_num_lqpoe"
  | .sqMemoryWindowBindErrors => "sq_num_mwbe"
  | .sqOutOfSequenceErrors => "sq_num_oos"
  | .sqRemoteAccessErrors => "sq_num_rae"
  | .sqRemoteInvalidRequestErrors => "sq_num_rire"
  | .sqRnrNakNum => "sq_num_rnr"
  | .sqRemoteOperationErrors => "sq_num_roe"
  | .sqRnrNakRetriesExceededErrors => "sq_num_rree"
  | .sqTransportRetriesExceededErrors => "sq_num_tree"
  | .sqCompletionQueueEntryErrors => "sq_num_wrfe"

/-- The constructor opens, under each index of the table, the file of that counter. -/
theorem fileNames_table :
    ∀ e ∈ table.entries, fileNames.get (e.2.cast length_fileNames) = fileOf e.1 := by
  decide +kernel

/-- What a constructor that returned has built. -/
theorem returns_create {readable : String → Bool} {deviceName : String} {portNumber : UInt8}
    {m m' : ℕ} {o : IbDiagPerfCounter}
    (h : Eff.Returns (create readable deviceName portNumber) m o m') :
    o.toFileCounters.Fresh table fun v => counterPath deviceName portNumber ++ fileOf v := by
  obtain ⟨_, _, ensured, built⟩ := Eff.returns_bind.mp h
  obtain ⟨rfl, -⟩ := Eff.returns_pure.mp built
  have isOpen := (Eff.returns_ensure.mp ensured).1
  rw [List.all_eq_true] at isOpen
  refine ⟨fun _ => rfl, fun e he => ?_, fun _ => rfl⟩
  rw [← fileNames_table e he]
  exact InStream.ofFile_of_isOpen (isOpen e.2 (List.mem_finRange e.2))

end IbDiagPerfCounter

end Detector
