import ScriptScan.Scan

/-!
# Diagnostics

A collector keeps what has been reported since it was last cleared, in order. It does
not decide what an error means for the program.

A scan into a collector adds the errors of the source behind what is there already
(`entries_scan`).
-/

namespace ScriptScan

/-- A message and the line that it is about. -/
structure Diagnostic where
  line : UInt32
  message : String
  deriving DecidableEq, Repr

namespace Diagnostic

/-- The line in brackets, then the message. -/
def display (d : Diagnostic) : String :=
  "[line " ++ toString d.line.toNat ++ "] Error: " ++ d.message

/-- The diagnostic of a lexical error. -/
def ofError (e : LexicalError) : Diagnostic := ⟨e.line, e.message⟩

end Diagnostic

/-- The diagnostics collected so far. -/
structure Diagnostics where
  entries : List Diagnostic
  deriving DecidableEq, Repr

namespace Diagnostics

/-! ## The collector -/

def empty : Diagnostics := ⟨[]⟩

def size (d : Diagnostics) : Nat := d.entries.length

def isEmpty (d : Diagnostics) : Bool := d.entries.isEmpty

/-- Something has been reported. -/
def hadError (d : Diagnostics) : Bool := !d.entries.isEmpty

/-- Adds a diagnostic behind the others. -/
def report (d : Diagnostics) (line : UInt32) (message : String) : Diagnostics :=
  ⟨d.entries ++ [⟨line, message⟩]⟩

/-- Forgets everything reported so far. -/
def clear (_ : Diagnostics) : Diagnostics := empty

/-- Scans a source and collects its errors. -/
def scan (d : Diagnostics) (source : String) : List Token × Diagnostics :=
  Scan.into source report d

/-! ## Histories -/

/-- What can be done with a collector. -/
inductive Operation where
  | report (line : UInt32) (message : String)
  | scan (source : String)
  | clear
  deriving DecidableEq, Repr

/-- The tokens that an operation returns and the collector that it leaves. Only a scan
returns tokens. -/
def apply (d : Diagnostics) : Operation → List Token × Diagnostics
  | .report line message => ([], d.report line message)
  | .scan source => d.scan source
  | .clear => ([], d.clear)

/-- The collector after a history of operations. -/
def after (d : Diagnostics) (history : List Operation) : Diagnostics :=
  history.foldl (fun d operation => (d.apply operation).2) d

/-! ## Entries -/

/-- Reporting the errors of a scan adds them in order. -/
theorem entries_report (d : Diagnostics) (scan : Scan) :
    (scan.report report d).entries = d.entries ++ scan.errors.map Diagnostic.ofError := by
  obtain ⟨tokens, errors⟩ := scan
  induction errors generalizing d with
  | nil => simp [Scan.report]
  | cons e rest ih =>
    have step := ih (d.report e.line e.message)
    simp only [Scan.report, List.foldl_cons] at step ⊢
    rw [step]
    simp [report, Diagnostic.ofError]

/-- A scan adds the errors of its source to the entries. -/
theorem entries_scan (d : Diagnostics) (source : String) :
    (d.scan source).2.entries
      = d.entries ++ (Scan.ofSource source).errors.map Diagnostic.ofError :=
  entries_report d (Scan.ofSource source)

end Diagnostics
end ScriptScan
