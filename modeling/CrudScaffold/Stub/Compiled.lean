import CrudScaffold.Stub.Template
import CrudScaffold.Stub.Bundled

/-! The route and migration stubs, compiled ahead. Rendering takes these templates for the
texts of the bundled stubs instead of compiling the texts again: each is what `compile` makes
of its text, runs of text and placeholders, every one with the line and column where it
starts. -/

namespace CrudScaffold.Stub

/-- A placeholder: the value of one key of the map. -/
def placeholder (key : String) : Tag := { head := .path (.steps [.key key] key) }

/-- The web route group, compiled. -/
def webRoutesTemplate : Template := [
  (.text "\n\n// ", some (1, 1)),
  (.value (placeholder "model_name"), some (3, 4)),
  (.text " Routes\nRoute::middleware(", some (3, 19)),
  (.value (placeholder "middleware"), some (4, 19)),
  (.text ")", some (4, 33)),
  (.value (placeholder "prefix_call"), some (4, 34)),
  (.text "->group(function () \x7b\n    Route::resource('", some (4, 49)),
  (.value (placeholder "route_prefix"), some (5, 22)),
  (.text "', ", some (5, 38)),
  (.value (placeholder "controller_class"), some (5, 41)),
  (.text "::class)->names('", some (5, 61)),
  (.value (placeholder "route_name"), some (5, 78)),
  (.text "');\n\x7d);\n", some (5, 92))]

/-- The API route group, compiled. -/
def apiRoutesTemplate : Template := [
  (.text "\n\n// ", some (1, 1)),
  (.value (placeholder "model_name"), some (3, 4)),
  (.text " API Routes\nRoute::middleware(", some (3, 19)),
  (.value (placeholder "middleware"), some (4, 19)),
  (.text ")->prefix('v1')->group(function () \x7b\n    Route::apiResource('", some (4, 33)),
  (.value (placeholder "route_prefix"), some (5, 25)),
  (.text "', ", some (5, 41)),
  (.value (placeholder "controller_class"), some (5, 44)),
  (.text "::class)->names('", some (5, 64)),
  (.value (placeholder "route_name"), some (5, 81)),
  (.text "');\n\x7d);\n", some (5, 95))]

/-- The text both migration stubs open with, up to the table name. -/
def migrationOpening : String := "\n".intercalate [
    "<?php",
    "",
    "use Illuminate\\Database\\Migrations\\Migration;",
    "use Illuminate\\Database\\Schema\\Blueprint;",
    "use Illuminate\\Support\\Facades\\Schema;",
    "",
    "return new class extends Migration",
    "\x7b",
    "    /**",
    "     * Run the migrations.",
    "     */",
    "    public function up(): void",
    "    \x7b",
    "        Schema::create('"]

/-- The text both migration stubs have between their columns and the table name that
`down` drops. -/
def migrationDown : String := "\n".intercalate [
    "",
    "        \x7d);",
    "    \x7d",
    "",
    "    /**",
    "     * Reverse the migrations.",
    "     */",
    "    public function down(): void",
    "    \x7b",
    "        Schema::dropIfExists('"]

/-- The table migration, compiled. -/
def migrationTemplate : Template := [
  (.text migrationOpening, some (1, 1)),
  (.value (placeholder "table_name"), some (14, 25)),
  (.text "', function (Blueprint $table) \x7b\n            $table->id();\n", some (14, 39)),
  (.value (placeholder "columns"), some (16, 1)),
  (.text migrationDown, some (17, 9)),
  (.value (placeholder "table_name"), some (25, 31)),
  (.text "');\n    \x7d\n\x7d;\n", some (25, 45))]

/-- The pivot table migration, compiled. -/
def pivotMigrationTemplate : Template := [
  (.text migrationOpening, some (1, 1)),
  (.value (placeholder "table_name"), some (14, 25)),
  (.text ("', function (Blueprint $table) \x7b\n            $table->id();\n" ++
    "            $table->foreignId('"), some (14, 39)),
  (.value (placeholder "foreign_key_1"), some (16, 32)),
  (.text "')->constrained('", some (16, 49)),
  (.value (placeholder "table_1"), some (16, 66)),
  (.text "')->cascadeOnDelete();\n            $table->foreignId('", some (16, 77)),
  (.value (placeholder "foreign_key_2"), some (17, 32)),
  (.text "')->constrained('", some (17, 49)),
  (.value (placeholder "table_2"), some (17, 66)),
  (.text ("')->cascadeOnDelete();\n            $table->timestamps();\n\n" ++
    "            $table->unique(['"), some (17, 77)),
  (.value (placeholder "foreign_key_1"), some (20, 30)),
  (.text "', '", some (20, 47)),
  (.value (placeholder "foreign_key_2"), some (20, 51)),
  (.text ("']);" ++ migrationDown), some (20, 68)),
  (.value (placeholder "table_name"), some (29, 31)),
  (.text "');\n    \x7d\n\x7d;\n", some (29, 45))]

/-- The template compiled ahead for a stub's text, if there is one. -/
def precompiled? (source : String) : Option Template :=
  if source = webRoutesStub then some webRoutesTemplate
  else if source = apiRoutesStub then some apiRoutesTemplate
  else if source = migrationStub then some migrationTemplate
  else if source = pivotMigrationStub then some pivotMigrationTemplate
  else none

end CrudScaffold.Stub
