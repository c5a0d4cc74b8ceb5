import WorkflowLaunch.Launch.Sequence

set_option autoImplicit false

/-!
Launching the servers of this library. The interrupt arrives while the server runs, if it did not
before.
-/

namespace WorkflowLaunch

/-- The world of a launch and the lines that were logged. -/
structure Site where
  world : World
  log : List Log.Line

namespace Site

/-- Takes over the world after an operation and the lines of its log. -/
def settle (site : Site) (effect : Server.Effect) : Except ServerFault Unit × Server × Site :=
  (effect.result, effect.server,
    ⟨effect.world, site.log ++ effect.logged.map effect.server.logger.line⟩)

end Site

/-- `directives` is the value of the filter variable. -/
def Server.factory (standard : Standard) (directives : Option String) : Factory Site Server where
  build set site :=
    let (result, world) := Server.build directives (set.settings (.standard standard)) site.world
    (result, { site with world := world })
  start server site := site.settle (server.start site.world)
  run server site := site.settle (server.runUntilTriggered site.world).2

end WorkflowLaunch
