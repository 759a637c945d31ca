/-!
# File systems

A file system is what each path leads to at one moment. Documents are read through it, so that a
load is a function of the files.
-/

namespace ConfigLayers

inductive Entry where
  | absent
  | directory
  | file (bytes : ByteArray)

abbrev FileSystem := String → Entry

end ConfigLayers
