import QueryGateway.Gateway.Bench
import QueryGateway.Shell.Host

/-!
# A bench with engines that run

The engines of this bench are programs of a host: they are looked for among the files of the bench and run there.
-/

namespace QueryGateway.Shell.Host

/-- The ports of a bench whose engines are programs of a host. -/
def ports : Ports (Bench Host) where
  drawId := Bench.drawId
  acquire := Bench.acquire
  release := Bench.release
  discard := Bench.discard
  available b program := b.tree.isProgram [] program
  invoke call b :=
    let (course, took, tree) := b.engines.run call b.tree
    (.finished (call.report course took.signedMilliseconds), { b with tree := tree })

end QueryGateway.Shell.Host
