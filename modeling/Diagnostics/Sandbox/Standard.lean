import Diagnostics.Sandbox.Library

/-!
# The files that are there

The directories, devices and programs of a system on which nothing has happened yet.
-/

namespace Diagnostics.Sandbox

namespace FileTree

/-- A path as names from the root. -/
def namesOf (path : String) : List Octets := (path.splitOn "/").map String.toList

/-- Directories, with their permissions. -/
def standardDirectories : List (String × Nat) :=
  [("boot", 0o755), ("dev", 0o755), ("etc", 0o755), ("home", 0o755), ("media", 0o755), ("mnt", 0o755), ("opt", 0o755),
    ("proc", 0o555), ("root", 0o700), ("run", 0o755), ("srv", 0o755), ("sys", 0o555), ("tmp", 0o1777), ("usr", 0o755),
    ("usr/bin", 0o755), ("usr/games", 0o755), ("usr/include", 0o755), ("usr/lib", 0o755), ("usr/lib64", 0o755),
    ("usr/local", 0o755), ("usr/local/bin", 0o755), ("usr/local/sbin", 0o755), ("usr/sbin", 0o755),
    ("usr/share", 0o755), ("usr/src", 0o755), ("var", 0o755), ("var/lib", 0o755), ("var/log", 0o755),
    ("var/tmp", 0o1777), ("dev/fd", 0o755), ("dev/shm", 0o1777)]

/-- Links. -/
def standardLinks : List (String × String) :=
  [("bin", "usr/bin"), ("lib", "usr/lib"), ("lib64", "usr/lib64"), ("sbin", "usr/sbin"), ("usr/bin/sh", "dash"),
    ("var/run", "/run"), ("var/lock", "/run/lock")]

/-- Devices. -/
def standardDevices : List (String × Device) :=
  [("dev/null", .null), ("dev/zero", .zero), ("dev/full", .full), ("dev/stdin", .descriptor 0),
    ("dev/stdout", .descriptor 1), ("dev/stderr", .descriptor 2)] ++
    (List.range 10).map fun n => ("dev/fd/" ++ toString n, .descriptor n)

/-- Who may use the system, and the groups of users. -/
def standardUsers : List (String × Nat × Nat × String × String × String) :=
  [("root", 0, 0, "root", "/root", "/bin/bash"), ("daemon", 1, 1, "daemon", "/usr/sbin", "/usr/sbin/nologin"),
    ("bin", 2, 2, "bin", "/bin", "/usr/sbin/nologin"), ("sys", 3, 3, "sys", "/dev", "/usr/sbin/nologin"),
    ("sync", 4, 65534, "sync", "/bin", "/bin/sync"), ("games", 5, 60, "games", "/usr/games", "/usr/sbin/nologin"),
    ("man", 6, 12, "man", "/var/cache/man", "/usr/sbin/nologin"),
    ("lp", 7, 7, "lp", "/var/spool/lpd", "/usr/sbin/nologin"),
    ("mail", 8, 8, "mail", "/var/mail", "/usr/sbin/nologin"),
    ("news", 9, 9, "news", "/var/spool/news", "/usr/sbin/nologin"),
    ("uucp", 10, 10, "uucp", "/var/spool/uucp", "/usr/sbin/nologin"),
    ("proxy", 13, 13, "proxy", "/bin", "/usr/sbin/nologin"),
    ("www-data", 33, 33, "www-data", "/var/www", "/usr/sbin/nologin"),
    ("backup", 34, 34, "backup", "/var/backups", "/usr/sbin/nologin"),
    ("list", 38, 38, "Mailing List Manager", "/var/list", "/usr/sbin/nologin"),
    ("irc", 39, 39, "ircd", "/run/ircd", "/usr/sbin/nologin"),
    ("_apt", 42, 65534, "", "/nonexistent", "/usr/sbin/nologin"),
    ("nobody", 65534, 65534, "nobody", "/nonexistent", "/usr/sbin/nologin")]

/-- Groups of users. -/
def standardGroups : List (String × Nat) :=
  [("root", 0), ("daemon", 1), ("bin", 2), ("sys", 3), ("adm", 4), ("tty", 5), ("disk", 6), ("lp", 7), ("mail", 8),
    ("news", 9), ("uucp", 10), ("man", 12), ("proxy", 13), ("kmem", 15), ("dialout", 20), ("fax", 21), ("voice", 22),
    ("cdrom", 24), ("floppy", 25), ("tape", 26), ("sudo", 27), ("audio", 29), ("dip", 30), ("www-data", 33),
    ("backup", 34), ("operator", 37), ("list", 38), ("irc", 39), ("src", 40), ("shadow", 42), ("utmp", 43),
    ("video", 44), ("sasl", 45), ("plugdev", 46), ("staff", 50), ("games", 60), ("users", 100), ("nogroup", 65534)]

/-- Documents. -/
def standardDocuments : List (String × String) :=
  [("etc/passwd", String.join (standardUsers.map fun (name, user, group, words, home, shell) =>
      ":".intercalate [name, "x", toString user, toString group, words, home, shell] ++ "\n")),
    ("etc/group", String.join (standardGroups.map fun (name, group) => name ++ ":x:" ++ toString group ++ ":\n")),
    ("etc/hostname", "localhost\n"),
    ("etc/hosts", "127.0.0.1\tlocalhost\n::1\tlocalhost ip6-localhost ip6-loopback\n")]

/-- The names of programs. -/
def standardPrograms : List String := "dash" :: toolTable.map (·.name)

/-- The files of a system on which nothing has happened. -/
def standard : FileTree :=
  let directories := standardDirectories.foldl (fun t (path, mode) =>
    t.put (namesOf path) { content := .directory 0 [], mode }) empty
  let links := standardLinks.foldl (fun t (path, target) =>
    t.put (namesOf path) { content := .link target.toList, mode := 0o777 }) directories
  let devices := standardDevices.foldl (fun t (path, device) =>
    t.put (namesOf path) { content := .device device, mode := 0o666 }) links
  let documents := standardDocuments.foldl (fun t (path, text) =>
    t.put (namesOf path) (Node.document (Octets.ofText text))) devices
  standardPrograms.foldl (fun t name =>
    t.put (namesOf ("usr/bin/" ++ name)) { content := .program name, mode := 0o755 }) documents

end FileTree

end Diagnostics.Sandbox
