import TestRig.Rehearsal.Console
import TestRig.Rehearsal.Handling
import TestRig.Rehearsal.Leasing
import TestRig.Rehearsal.Locking

/-!
A machine to rehearse on: files, processes and a small shell for the scripts of workers, an engine and
test programs with scripted replies, and one record of everything said and asked. It answers the
questions of the program where a run is compared with an expected one. It is no part of the program:
the root alone imports it, and nothing that is proved rests on it.
-/
