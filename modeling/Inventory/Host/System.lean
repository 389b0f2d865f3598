import Inventory.Host.Files
/-!
# The host system

The file tree of the machine the program runs on, before a run adds its own files: the
usual top-level directories, the account database as a regular file, the null and full
devices, a process memory file that opens but cannot be read, and the command-line tools
in `/usr/bin` and `/bin`. Neither the default manifest nor the default hardware lister
exists on it.
-/

set_option autoImplicit false

namespace Inventory.Host

/-- The tools installed on the host. -/
def tools : List String :=
  ["sh", "dash", "echo", "true", "false", "cat", "sleep", "printf", "env", "od"]

/-- The directories present on the host. -/
def directories : List String :=
  ["/bin", "/dev", "/etc", "/home", "/opt", "/proc", "/proc/self", "/root", "/run", "/sbin",
    "/srv", "/sys", "/tmp", "/usr", "/usr/bin", "/usr/lib", "/usr/local", "/usr/local/bin",
    "/usr/sbin", "/usr/share", "/var", "/var/lib", "/var/log", "/var/tmp"]

/-- **The host's file tree.** -/
def files : Files :=
  let fs : Files := directories.foldl (fun acc d => acc.put d .dir) {}
  let fs := fs.put "/etc/passwd" (.file (Utf8.ofString "root:x:0:0:root:/root:/bin/sh\n") false)
  let fs := fs.put "/etc/hostname" (.file (Utf8.ofString "localhost\n") false)
  let fs := fs.put "/etc/hosts" (.file (Utf8.ofString "127.0.0.1\tlocalhost\n") false)
  let fs := fs.put "/dev/null" (.device .null)
  let fs := fs.put "/dev/full" (.device .full)
  let fs := fs.put "/proc/self/mem" (.device .unreadable)
  let fs := tools.foldl (fun acc t => acc.put ("/usr/bin/" ++ t) (.program t)) fs
  tools.foldl (fun acc t => acc.put ("/bin/" ++ t) (.program t)) fs

/-- The search path for programs. -/
def searchPath : String := "/usr/bin:/bin"

end Inventory.Host
