import CrudScaffold.Artifact.Migration
import CrudScaffold.Artifact.Model
import CrudScaffold.Artifact.Factory
import CrudScaffold.Artifact.Seeder
import CrudScaffold.Artifact.FormRequest
import CrudScaffold.Artifact.Resource
import CrudScaffold.Artifact.Controller
import CrudScaffold.Artifact.Views
import CrudScaffold.Artifact.Routes

/-! Every kind of artifact with the renderer that makes it. -/

namespace CrudScaffold

/-- The artifacts of one kind for a context, or why they cannot be made. -/
def ArtifactKind.render : ArtifactKind → RenderContext → Except ScaffoldError (List Artifact)
  | .migration => renderMigrations
  | .model => renderModel
  | .factory => renderFactory
  | .seeder => renderSeeder
  | .request => renderFormRequests
  | .resource => renderResource
  | .controller => renderController
  | .views => renderViews
  | .routes => renderRoutes

end CrudScaffold
