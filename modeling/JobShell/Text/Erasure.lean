/-
Module: JobShell.Text.Erasure
Purpose: The effect of backspaces in a line: each one takes back the user-perceived character before it.
Main exports: erase
-/
import JobShell.Text.Cluster
import JobShell.Text.Extent

namespace JobShell.Text

/-- What has been written so far, from its end, and the sizes of the clusters in it, the last first.
A size is kept in one byte. -/
structure Written where
  reversed : List Char := []
  sizes : List UInt8 := []
deriving Repr, Inhabited

/-- Writes a cluster, or takes the last one back if the cluster is a backspace. -/
def Written.put (w : Written) (cluster : List Char) : Written :=
  if cluster = ['\x08'] then
    match w.sizes with
    | [] => w
    | size :: sizes => { reversed := dropBytes size.toNat w.reversed, sizes := sizes }
  else
    { reversed := cluster.reverse ++ w.reversed
      sizes := (byteSize cluster).toUInt8 :: w.sizes }

/-- A line after its backspaces have taken effect. -/
def erase (text : List Char) : List Char :=
  if text.contains '\x08' then ((clusters text).foldl Written.put {}).reversed.reverse
  else text

end JobShell.Text
