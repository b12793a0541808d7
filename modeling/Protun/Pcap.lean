import Protun.Client

/-!
# Packet capture files (`pcap_stream.rs`)

`PcapStream` writes captured packets to a file and stops at a size limit. The file system is a
parameter (`Fs`): `F` is a file handle and `E` the environment that holds the files.
-/

namespace Protun

/-- The calls of `std::fs` and `std::path` that `PcapStream` makes. -/
structure Fs (E F : Type) where
  /-- `Path::parent`. -/
  parent : String → Option String
  createDirAll : String → E → Except IoError Unit × E
  /-- `File::options().create(true).write(true).append(append).open(path)`. -/
  openFile : String → Bool → E → Except IoError F × E
  fromRawFd : Int → F
  /-- `file.metadata()?.len()`. -/
  len : F → E → Except IoError Nat × E
  writeAll : F → Bytes → E → Except IoError Unit × E
  syncAll : F → E → Except IoError Unit × E

/-- `PcapStream`. -/
structure PcapStream (F : Type) where
  fileInfo : PcapFileInfo
  file : F
  size : Nat
  maxBytes : Option Nat
  atMaxSize : Bool

namespace PcapStream

variable {E F : Type} (fs : Fs E F)

/-- The `create_dir_all` of the parent directory, if there is one. -/
def createParent (path : String) (e : E) : Except IoError Unit × E :=
  match fs.parent path with
  | some parent => fs.createDirAll parent e
  | none => (.ok (), e)

/-- The `match &file_info.file` of `PcapStream::new`. -/
def openTarget (file : PcapFile) (e : E) : Except IoError F × E :=
  match file with
  | .path path mode =>
    match createParent fs path e with
    | (.ok (), e) => fs.openFile path (mode = .append) e
    | (.error err, e) => (.error err, e)
  | .fd fd => (.ok (fs.fromRawFd fd), e)

/-- `PcapStream::new`. -/
def new (fileInfo : PcapFileInfo) (e : E) : Except IoError (PcapStream F) × E :=
  match openTarget fs fileInfo.file e with
  | (.error err, e) => (.error err, e)
  | (.ok file, e) =>
    match fs.len file e with
    | (.error err, e) => (.error err, e)
    | (.ok size, e) =>
      (.ok { fileInfo, file, size, maxBytes := fileInfo.maxBytes, atMaxSize := false }, e)

/-- Whether `len` more bytes would pass the limit. -/
def exceeds (p : PcapStream F) (len : Nat) : Bool :=
  match p.maxBytes with
  | some maxSize => maxSize < p.size + len
  | none => false

/-- `PcapStream::write`. -/
def write (data : Bytes) (p : PcapStream F) (e : E) : PcapStream F × E :=
  if p.atMaxSize then (p, e)
  else if p.exceeds data.length then ({ p with atMaxSize := true }, e)
  else
    match fs.writeAll p.file data e with
    | (.error _, e) => (p, e)
    | (.ok (), e) => ({ p with size := p.size + data.length }, e)

/-- `impl Drop for PcapStream`, of an `Option<PcapStream>` that is overwritten. -/
def dropOld (p : Option (PcapStream F)) (e : E) : E :=
  match p with
  | some p => (fs.syncAll p.file e).2
  | none => e

end PcapStream

end Protun
