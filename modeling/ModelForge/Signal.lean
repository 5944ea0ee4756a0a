import ModelForge.Keyed
/-!
Signals: the numbers by which a running program can be told to end, and their names.
-/

namespace ModelForge.Signal

/-- The signals that have names. -/
def names : List (Nat × String) := [(1, "HUP"), (2, "INT"), (3, "QUIT"), (4, "ILL"), (5, "TRAP"), (6, "ABRT"),
  (7, "BUS"), (8, "FPE"), (9, "KILL"), (10, "USR1"), (11, "SEGV"), (12, "USR2"), (13, "PIPE"), (14, "ALRM"),
  (15, "TERM"), (16, "STKFLT"), (17, "CHLD"), (18, "CONT"), (19, "STOP"), (20, "TSTP"), (21, "TTIN"),
  (22, "TTOU"), (23, "URG"), (24, "XCPU"), (25, "XFSZ"), (26, "VTALRM"), (27, "PROF"), (28, "WINCH"),
  (29, "IO"), (30, "PWR"), (31, "SYS")]

def name? (signal : Nat) : Option String := Keyed.find? signal names

/-- The signals that a program does not notice unless it asks for them: about its children, its
window and its stopping. -/
def isIgnored (signal : Nat) : Bool := [17, 18, 19, 20, 21, 22, 23, 28].contains signal

/-- What is said about a program that a signal has ended; nothing at all about some. -/
def obituary? (signal : Nat) : Option String :=
  Keyed.find? signal [(1, "Hangup"), (3, "Quit"), (4, "Illegal instruction"), (5, "Trace/breakpoint trap"),
    (6, "Aborted"), (7, "Bus error"), (8, "Floating point exception"), (9, "Killed"), (10, "User defined signal 1"),
    (11, "Segmentation fault"), (12, "User defined signal 2"), (14, "Alarm clock"), (15, "Terminated"),
    (16, "Stack fault"), (24, "CPU time limit exceeded"), (25, "File size limit exceeded"),
    (26, "Virtual timer expired"), (27, "Profiling timer expired"), (29, "I/O possible"), (30, "Power failure"),
    (31, "Bad system call")]

end ModelForge.Signal
