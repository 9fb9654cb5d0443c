import Equate.Files.Basic

/-!
# The tree of a usual machine

Programs stand in `/usr/bin`, to which `/bin` leads. What a program file holds is no text
and says only which program it is.
-/
namespace Equate.Files

/-- What the files of programs begin with. -/
def imageStart : Bytes := [0x7F, 0x45, 0x4C, 0x46, 0xFF]

/-- The content of the file of a program. -/
def image (program : Text) : Bytes := imageStart ++ Text.toBytes program

/-- The program that a file holds. -/
def programOf? (content : Bytes) : Option Text :=
  if imageStart.isPrefixOf content then Text.ofBytes? (content.drop imageStart.length) else none

/-- The programs of a usual machine. -/
def programs : List String :=
  ["[", "arch", "awk", "base32", "base64", "basename", "bash", "cat", "chmod", "cksum", "cmp",
    "comm", "cp", "cut", "dash", "date", "dd", "diff", "dirname", "echo", "egrep", "env",
    "expand", "expr", "factor", "false", "fgrep", "find", "fold", "grep", "groups", "head",
    "hostname", "id", "install", "join", "link", "ln", "ls", "mawk", "md5sum", "mkdir",
    "mkfifo", "mktemp", "mv", "nawk", "nice", "nl", "nohup", "nproc", "od", "paste",
    "printenv", "printf", "pwd", "python3", "readlink", "realpath", "rev", "rm", "rmdir",
    "sed", "seq", "setsid", "sha1sum", "sha224sum", "sha256sum", "sha384sum", "sha512sum",
    "sleep", "sort", "split", "stat", "stdbuf", "sum", "sync", "tac", "tail", "tee", "test",
    "timeout", "touch", "tr", "true", "truncate", "tty", "uname", "unexpand", "uniq", "unlink",
    "wc", "which", "whoami", "xargs", "yes"]

/-- The directories of a usual machine that hold nothing of interest. -/
def plainDirectories : List String :=
  ["boot", "home", "media", "mnt", "opt", "proc", "root", "run", "srv", "sys", "tmp", "usr/lib",
    "usr/local/bin", "usr/local/sbin", "usr/sbin", "usr/share", "var/tmp"]

/-- The other entries of a usual machine. -/
def plainEntries : List (String × Entry) :=
  let file (t : String) : Entry := .file (Text.toBytes t.toList) false
  [("bin", .link ("usr/bin" : Text)), ("sbin", .link ("usr/sbin" : Text)),
    ("lib", .link ("usr/lib" : Text)), ("usr/bin/sh", .link ("dash" : Text)),
    ("dev/null", .device .void), ("dev/stdin", .device (.stream 0)),
    ("dev/stdout", .device (.stream 1)), ("dev/stderr", .device (.stream 2)),
    ("dev/fd/0", .device (.stream 0)), ("dev/fd/1", .device (.stream 1)),
    ("dev/fd/2", .device (.stream 2)),
    ("etc/group", file "root:x:0:\n"), ("etc/hostname", file "localhost\n"),
    ("etc/hosts", file "127.0.0.1\tlocalhost\n"),
    ("etc/passwd", file "root:x:0:0:root:/root:/bin/bash\n"),
    ("etc/shells", file "/bin/sh\n")]

/-- The tree of a usual machine with a working directory. -/
def usual (here : Place) : Files :=
  let place (path : String) : Place := Text.splitOn '/' path.toList
  let tree : Files := ⟨Std.ExtTreeMap.empty, here⟩
  let tree := plainDirectories.foldl (fun tree path => tree.add (place path) .directory) tree
  let tree := plainEntries.foldl (fun tree (path, e) => tree.add (place path) e) tree
  let tree := programs.foldl (fun tree name =>
    tree.add (place ("usr/bin/" ++ name)) (.file (image name.toList) true)) tree
  tree.add here .directory

end Equate.Files
