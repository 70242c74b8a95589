/-!
Signals by number: their names, what they do to a process that has made no arrangement for them, and
how their victims are described.
-/

namespace TestRig.Rehearsal.Kernel

abbrev Signal := Nat

namespace Signal

/-- Names in the order of the numbers, from one, each with the words for a process it has ended. -/
def table : List (String × String) :=
  [("HUP", "Hangup"), ("INT", "Interrupt"), ("QUIT", "Quit"), ("ILL", "Illegal instruction"),
   ("TRAP", "Trace/breakpoint trap"), ("ABRT", "Aborted"), ("BUS", "Bus error"),
   ("FPE", "Floating point exception"), ("KILL", "Killed"), ("USR1", "User defined signal 1"),
   ("SEGV", "Segmentation fault"), ("USR2", "User defined signal 2"), ("PIPE", "Broken pipe"),
   ("ALRM", "Alarm clock"), ("TERM", "Terminated"), ("STKFLT", "Stack fault"),
   ("CHLD", "Child exited"), ("CONT", "Continued"), ("STOP", "Stopped (signal)"),
   ("TSTP", "Stopped"), ("TTIN", "Stopped (tty input)"), ("TTOU", "Stopped (tty output)"),
   ("URG", "Urgent I/O condition"), ("XCPU", "CPU time limit exceeded"),
   ("XFSZ", "File size limit exceeded"), ("VTALRM", "Virtual timer expired"),
   ("PROF", "Profiling timer expired"), ("WINCH", "Window changed"), ("IO", "I/O possible"),
   ("PWR", "Power failure"), ("SYS", "Bad system call")]

def interrupt : Signal := 2
def quit : Signal := 3
def kill : Signal := 9
def pipe : Signal := 13
def terminate : Signal := 15
def resume : Signal := 18

def bound : Signal := 65

def description (n : Signal) : String := ((table[n - 1]?).map Prod.snd).getD "Unknown signal"

def ofName? (name : String) : Option Signal := ((table.map Prod.fst).idxOf? name).map (· + 1)

def isUnstoppable (n : Signal) : Bool := n == 9 || n == 19

def isHarmless (n : Signal) : Bool := [17, 18, 23, 28].contains n

def halts (n : Signal) : Bool := [19, 20, 21, 22].contains n

end Signal

end TestRig.Rehearsal.Kernel
