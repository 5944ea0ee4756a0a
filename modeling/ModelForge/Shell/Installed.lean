import ModelForge.Shell.State
/-!
The programs that are installed outside of any file system that a script changes. They are known by
their names; each of them turns down options that it does not know, with a status of its own.
-/

namespace ModelForge.Shell.Installed

/-- Programs by the status with which they turn options down. -/
def statuses : List (Nat × List String) := [
  (0, ["true", "echo"]),
  (1, ["false", "arch", "b2sum", "base32", "base64", "basename", "basenc", "cat", "chgrp", "chmod", "chown", "cksum",
    "comm", "cp", "csplit", "cut", "date", "dd", "df", "dircolors", "dirname", "expand", "factor", "fmt", "fold",
    "groups", "gunzip", "gzip", "head", "hostid", "id", "install", "join", "link", "ln", "logname", "md5sum",
    "mkdir", "mkfifo", "mknod", "mktemp", "mv", "nproc", "numfmt", "od", "paste", "pathchk", "pinky", "pr", "ptx",
    "pwd", "readlink", "realpath", "rev", "rm", "rmdir", "seq", "sha1sum", "sha224sum", "sha256sum", "sha384sum",
    "sha512sum", "shred", "shuf", "sleep", "split", "stat", "sum", "sync", "tac", "tail", "tee", "touch", "tr",
    "truncate", "tsort", "uname", "unexpand", "uniq", "unlink", "users", "wc", "who", "whoami", "xargs", "yes",
    "zcat"]),
  (2, ["dir", "expr", "ls", "printenv", "printf", "sort", "test", "[", "tty", "vdir", "sh", "dash",
    "bash"]),
  (64, ["tar"]),
  (125, ["env", "nice", "nohup", "stdbuf", "timeout"])]

/-- The status with which a program turns options down; none if there is no such program. -/
def status? (name : String) : Option Nat := (statuses.find? fun s => s.2.contains name).map (·.1)

def isInstalled (name : String) : Bool := (status? name).isSome

/-- The directories that hold the programs. -/
def directories : List String := ["/usr/bin/", "/bin/"]

/-- The program that lies at a path. -/
def at? (path : String) : Option String :=
  directories.findSome? fun d =>
    let name := String.ofList (path.toList.drop d.length)
    if path.toList.take d.length = d.toList && isInstalled name then some name else none

/-- The programs that read scripts. -/
def isShell (name : String) : Bool := name = "sh" || name = "dash" || name = "bash"

/-- The shell that speaks of lines and commands in its complaints, and takes a backslash for itself. -/
def isTalkative (name : String) : Bool := name = "bash"

end ModelForge.Shell.Installed
