import VolumeReclaim.Json.Writer
import VolumeReclaim.PersistentVolume.Basic

/-!
The command lines for kubectl. A cluster is selected by the name of a kubectl context; without
one, or with an empty one, the current context counts.
-/
set_option autoImplicit false

namespace VolumeReclaim.Kubectl

inductive Command where
  | list
  | update (volume : PersistentVolume)
  | delete (name : Json)

/-- The merge patch that leaves a volume with these finalizers, and with none if there are none. -/
def finalizerPatch (finalizers : Json) : Json :=
  .obj [("metadata", .obj [("finalizers", finalizers.orElse .null)])]

/-- The arguments of a command. A deletion is over once the server has accepted it. -/
def Command.arguments : Command → List Json
  | .list => [.str "get", .str "persistentvolumes", .str "-o", .str "json"]
  | .update volume =>
    [.str "patch", .str "persistentvolume", volume.name, .str "--type=merge", .str "-p",
      .str (finalizerPatch volume.finalizers).render]
  | .delete name => [.str "delete", .str "persistentvolume", name, .str "--wait=false"]

def selection (context : Json) : List Json :=
  if context.isPresent then [.str "--context", context] else []

def commandLine (context : Json) (arguments : List Json) : List Json :=
  .str "kubectl" :: selection context ++ arguments

end VolumeReclaim.Kubectl
