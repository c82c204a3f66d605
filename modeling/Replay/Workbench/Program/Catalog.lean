import Replay.Workbench.Program.Blocks
import Replay.Workbench.Program.Branching
import Replay.Workbench.Program.Cat
import Replay.Workbench.Program.Columns
import Replay.Workbench.Program.Dump
import Replay.Workbench.Program.Expression
import Replay.Workbench.Program.Invocation
import Replay.Workbench.Program.Matching
import Replay.Workbench.Program.Moving
import Replay.Workbench.Program.Ordering
import Replay.Workbench.Program.Plain
import Replay.Workbench.Program.Sequence
import Replay.Workbench.Program.Sed.Run
import Replay.Workbench.Program.Transliterate
import Replay.Workbench.Shell.Start

/-! The programs there are, by name. -/
namespace Replay.Program

open Machine

def jobs : List (String × (List String → Job Nat)) :=
  [("cat", Cat.run), ("true", ending 0 "success"), ("false", ending 1 "failure"), ("sleep", sleep),
   ("echo", echo), ("yes", yes), ("pwd", whereabouts), ("basename", baseName),
   ("dirname", dirName), ("head", head), ("tail", tail), ("wc", wordCount),
   ("tr", Transliterate.run), ("sed", Sed.run), ("seq", Sequence.run), ("ls", Files.ls),
   ("chmod", Files.chmod), ("mkdir", Files.mkdir), ("mktemp", Files.mktemp), ("rm", Files.rm),
   ("rmdir", Files.rmdir), ("touch", Files.touch), ("cp", Moving.cp), ("ln", Moving.ln),
   ("mv", Moving.mv), ("grep", Matching.run), ("cut", Columns.cut),
   ("paste", Columns.paste), ("sort", Ordering.sort), ("tac", Ordering.tac),
   ("uniq", Ordering.uniq), ("base64", Dump.base64), ("od", Dump.od), ("expr", Expression.run),
   ("tee", Branching.tee), ("dd", Blocks.dd)]

def launchers : List (String × (Environment → List String → Job Nat)) :=
  [("env", Surroundings.env), ("printenv", Surroundings.printEnv), ("nice", Surroundings.nice),
   ("nohup", Surroundings.nohup), ("setsid", Surroundings.setsid),
   ("timeout", Surroundings.timeout), ("which", Surroundings.which), ("xargs", Invocation.xargs)]

/-- Programs that are the shell, or do what the shell can do itself. -/
def shells : List (String × Machine.Program) :=
  [("sh", Shell.program), ("dash", Shell.program),
   ("printf", Shell.builtinProgram Shell.Builtin.printf),
   ("test", Shell.builtinProgram (Shell.Builtin.Test.run "test")),
   ("[", Shell.builtinProgram (Shell.Builtin.Test.run "[")),
   ("kill", Shell.builtinProgram Shell.Builtin.kill)]

def names : List String := shells.map (·.1) ++ jobs.map (·.1) ++ launchers.map (·.1)

def find? (name : String) : Option Machine.Program :=
  match shells.lookup name, jobs.lookup name with
  | some program, _ => some program
  | none, some run => some fun words _ => (run words).task
  | none, none =>
    (launchers.lookup name).map fun run words environment => (run environment words).task

def directories : List String :=
  ["/boot", "/dev", "/dev/fd", "/dev/pts", "/dev/shm", "/etc", "/home", "/media", "/mnt", "/opt",
   "/proc", "/root", "/run", "/srv", "/sys", "/tmp", "/usr", "/usr/bin", "/usr/games",
   "/usr/include", "/usr/lib", "/usr/lib64", "/usr/libexec", "/usr/local", "/usr/local/bin",
   "/usr/local/etc", "/usr/local/games", "/usr/local/include", "/usr/local/lib", "/usr/local/sbin",
   "/usr/local/share", "/usr/local/src", "/usr/sbin", "/usr/share", "/usr/src", "/var",
   "/var/backups", "/var/cache", "/var/lib", "/var/local", "/var/log", "/var/mail", "/var/opt",
   "/var/spool", "/var/tmp"]

def links : List (String × String) :=
  [("/bin", "usr/bin"), ("/lib", "usr/lib"), ("/lib64", "usr/lib64"), ("/sbin", "usr/sbin"),
   ("/var/lock", "/run/lock"), ("/var/run", "/run")]

def devices : List (String × Device) :=
  [("/dev/null", .null), ("/dev/zero", .zero), ("/dev/full", .full),
   ("/dev/stdin", .descriptor 0), ("/dev/stdout", .descriptor 1), ("/dev/stderr", .descriptor 2)] ++
  (List.range 10).map fun n => ("/dev/fd/" ++ decimal n, .descriptor n)

def files : List (String × String) :=
  [("/etc/passwd", "root:x:0:0:root:/root:/bin/bash\n"), ("/etc/group", "root:x:0:\n"),
   ("/etc/hostname", "machine\n"), ("/etc/hosts", "127.0.0.1\tlocalhost\n"),
   ("/etc/profile", ""), ("/etc/fstab", "# UNCONFIGURED FSTAB FOR BASE SYSTEM\n"),
   ("/etc/resolv.conf", "nameserver 127.0.0.1\n")]

def tree : Tree :=
  let t := directories.foldl (fun t path => t.plant path fun parent => .directory parent []) .empty
  let t := links.foldl (fun t l => t.plant l.1 fun _ => .link l.2) t
  let t := devices.foldl (fun t d => t.plant d.1 fun _ => .device d.2) t
  let t := files.foldl (fun t f => t.plant f.1 fun _ => .file (pack f.2) false) t
  names.foldl (fun t name => t.plant ("/usr/bin/" ++ name) fun _ => .program name) t

end Replay.Program
