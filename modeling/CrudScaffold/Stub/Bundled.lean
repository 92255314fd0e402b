/-! The stubs that ship with the scaffolder: templates for every artifact, with `{{name}}`
placeholders. Blade echo tags are written `\{{ ... }}` so the template engine leaves them
as they are. -/

namespace CrudScaffold.Stub

/-- The table migration: `Schema::create` with the column lines. -/
def migrationStub : String := "\n".intercalate [
    "<?php",
    "",
    "use Illuminate\\Database\\Migrations\\Migration;",
    "use Illuminate\\Database\\Schema\\Blueprint;",
    "use Illuminate\\Support\\Facades\\Schema;",
    "",
    "return new class extends Migration",
    "\x7b",
    "    /**",
    "     * Run the migrations.",
    "     */",
    "    public function up(): void",
    "    \x7b",
    "        Schema::create('\x7b\x7btable_name\x7d\x7d', function (Blueprint $table) \x7b",
    "            $table->id();",
    "\x7b\x7bcolumns\x7d\x7d",
    "        \x7d);",
    "    \x7d",
    "",
    "    /**",
    "     * Reverse the migrations.",
    "     */",
    "    public function down(): void",
    "    \x7b",
    "        Schema::dropIfExists('\x7b\x7btable_name\x7d\x7d');",
    "    \x7d",
    "\x7d;",
    ""]

/-- A pivot table migration: two foreign keys, unique together. -/
def pivotMigrationStub : String := "\n".intercalate [
    "<?php",
    "",
    "use Illuminate\\Database\\Migrations\\Migration;",
    "use Illuminate\\Database\\Schema\\Blueprint;",
    "use Illuminate\\Support\\Facades\\Schema;",
    "",
    "return new class extends Migration",
    "\x7b",
    "    /**",
    "     * Run the migrations.",
    "     */",
    "    public function up(): void",
    "    \x7b",
    "        Schema::create('\x7b\x7btable_name\x7d\x7d', function (Blueprint $table) \x7b",
    "            $table->id();",
    "            $table->foreignId('\x7b\x7bforeign_key_1\x7d\x7d')->constrained('\x7b\x7btable_1\x7d\x7d')->cascadeOnDelete();",
    "            $table->foreignId('\x7b\x7bforeign_key_2\x7d\x7d')->constrained('\x7b\x7btable_2\x7d\x7d')->cascadeOnDelete();",
    "            $table->timestamps();",
    "",
    "            $table->unique(['\x7b\x7bforeign_key_1\x7d\x7d', '\x7b\x7bforeign_key_2\x7d\x7d']);",
    "        \x7d);",
    "    \x7d",
    "",
    "    /**",
    "     * Reverse the migrations.",
    "     */",
    "    public function down(): void",
    "    \x7b",
    "        Schema::dropIfExists('\x7b\x7btable_name\x7d\x7d');",
    "    \x7d",
    "\x7d;",
    ""]

/-- The Eloquent model class. -/
def modelStub : String := "\n".intercalate [
    "<?php",
    "",
    "namespace \x7b\x7bnamespace\x7d\x7d;",
    "",
    "\x7b\x7bimports\x7d\x7d",
    "",
    "class \x7b\x7bclass_name\x7d\x7d extends Model",
    "\x7b",
    "    \x7b\x7btraits\x7d\x7d",
    "",
    "    /**",
    "     * The table associated with the model.",
    "     *",
    "     * @var string",
    "     */",
    "    protected $table = '\x7b\x7btable_name\x7d\x7d';",
    "",
    "    /**",
    "     * The attributes that are mass assignable.",
    "     *",
    "     * @var list<string>",
    "     */",
    "    protected $fillable = [",
    "        \x7b\x7bfillable\x7d\x7d",
    "    ];",
    "",
    "    /**",
    "     * Get the attributes that should be cast.",
    "     *",
    "     * @return array<string, string>",
    "     */",
    "    protected function casts(): array",
    "    \x7b",
    "        return [",
    "            \x7b\x7bcasts\x7d\x7d",
    "        ];",
    "    \x7d\x7b\x7brelations\x7d\x7d",
    "\x7d",
    ""]

/-- The model factory, with its definition and states. -/
def factoryStub : String := "\n".intercalate [
    "<?php",
    "",
    "namespace \x7b\x7bnamespace\x7d\x7d;",
    "",
    "use \x7b\x7bmodel_class\x7d\x7d;",
    "use Illuminate\\Database\\Eloquent\\Factories\\Factory;",
    "",
    "/**",
    " * @extends Factory<\x7b\x7bmodel_name\x7d\x7d>",
    " */",
    "class \x7b\x7bclass_name\x7d\x7d extends Factory",
    "\x7b",
    "    /**",
    "     * The name of the factory's corresponding model.",
    "     *",
    "     * @var class-string<\x7b\x7bmodel_name\x7d\x7d>",
    "     */",
    "    protected $model = \x7b\x7bmodel_name\x7d\x7d::class;",
    "",
    "    /**",
    "     * Define the model's default state.",
    "     *",
    "     * @return array<string, mixed>",
    "     */",
    "    public function definition(): array",
    "    \x7b",
    "        return [",
    "            \x7b\x7bdefinitions\x7d\x7d",
    "        ];",
    "    \x7d\x7b\x7bstates\x7d\x7d",
    "\x7d",
    ""]

/-- The database seeder. -/
def seederStub : String := "\n".intercalate [
    "<?php",
    "",
    "namespace Database\\Seeders;",
    "",
    "use \x7b\x7bmodel_class\x7d\x7d;",
    "use Illuminate\\Database\\Seeder;",
    "",
    "class \x7b\x7bclass_name\x7d\x7d extends Seeder",
    "\x7b",
    "    /**",
    "     * Run the database seeds.",
    "     */",
    "    public function run(): void",
    "    \x7b",
    "        \x7b\x7bmodel_name\x7d\x7d::factory()->count(\x7b\x7bcount\x7d\x7d)->create();",
    "    \x7d",
    "\x7d",
    ""]

/-- A form request with its rules and messages. -/
def requestStub : String := "\n".intercalate [
    "<?php",
    "",
    "namespace \x7b\x7bnamespace\x7d\x7d;",
    "",
    "use Illuminate\\Foundation\\Http\\FormRequest;",
    "",
    "class \x7b\x7bclass_name\x7d\x7d extends FormRequest",
    "\x7b",
    "    /**",
    "     * Determine if the user is authorized to make this request.",
    "     */",
    "    public function authorize(): bool",
    "    \x7b",
    "        return true;",
    "    \x7d",
    "",
    "    /**",
    "     * Get the validation rules that apply to the request.",
    "     *",
    "     * @return array<string, string>",
    "     */",
    "    public function rules(): array",
    "    \x7b",
    "        return [",
    "            \x7b\x7brules\x7d\x7d",
    "        ];",
    "    \x7d",
    "",
    "    /**",
    "     * Get custom messages for validator errors.",
    "     *",
    "     * @return array<string, string>",
    "     */",
    "    public function messages(): array",
    "    \x7b",
    "        return [",
    "            \x7b\x7bmessages\x7d\x7d",
    "        ];",
    "    \x7d",
    "\x7d",
    ""]

/-- The API resource. -/
def resourceStub : String := "\n".intercalate [
    "<?php",
    "",
    "namespace \x7b\x7bnamespace\x7d\x7d;",
    "",
    "use Illuminate\\Http\\Request;",
    "use Illuminate\\Http\\Resources\\Json\\JsonResource;",
    "",
    "class \x7b\x7bclass_name\x7d\x7d extends JsonResource",
    "\x7b",
    "    /**",
    "     * Transform the resource into an array.",
    "     *",
    "     * @return array<string, mixed>",
    "     */",
    "    public function toArray(Request $request): array",
    "    \x7b",
    "        return [",
    "            \x7b\x7bfields\x7d\x7d",
    "        ];",
    "    \x7d",
    "\x7d",
    ""]

/-- The resource controller that renders views. -/
def controllerStub : String := "\n".intercalate [
    "<?php",
    "",
    "namespace \x7b\x7bnamespace\x7d\x7d;",
    "",
    "use \x7b\x7bmodel_class\x7d\x7d;",
    "use \x7b\x7bstore_request_class\x7d\x7d;",
    "use \x7b\x7bupdate_request_class\x7d\x7d;",
    "use Illuminate\\Http\\RedirectResponse;",
    "use Illuminate\\Http\\Request;",
    "use Illuminate\\View\\View;",
    "",
    "class \x7b\x7bclass_name\x7d\x7d extends \x7b\x7bbase_controller\x7d\x7d",
    "\x7b",
    "    /**",
    "     * Display a listing of the resource.",
    "     */",
    "    public function index(Request $request): View",
    "    \x7b",
    "        $query = \x7b\x7bmodel_name\x7d\x7d::query()\x7b\x7bwith_relations\x7d\x7d;",
    "",
    "        if ($search = $request->input('search')) \x7b",
    "            $query->where(function ($q) use ($search) \x7b",
    "                foreach (\x7b\x7bsearch_fields\x7d\x7d as $field) \x7b",
    "                    $q->orWhere($field, 'like', \"%\x7b$search\x7d%\");",
    "                \x7d",
    "            \x7d);",
    "        \x7d",
    "",
    "        $sort = in_array($request->input('sort'), \x7b\x7bsortable_fields\x7d\x7d, true)",
    "            ? $request->input('sort')",
    "            : 'id';",
    "        $direction = $request->input('direction') === 'asc' ? 'asc' : 'desc';",
    "",
    "        $\x7b\x7bmodel_variable_plural\x7d\x7d = $query->orderBy($sort, $direction)",
    "            ->paginate(\x7b\x7bper_page\x7d\x7d)",
    "            ->withQueryString();",
    "",
    "        return view('\x7b\x7bview_folder\x7d\x7d.index', compact('\x7b\x7bmodel_variable_plural\x7d\x7d'));",
    "    \x7d",
    "",
    "    /**",
    "     * Show the form for creating a new resource.",
    "     */",
    "    public function create(): View",
    "    \x7b",
    "        return view('\x7b\x7bview_folder\x7d\x7d.create');",
    "    \x7d",
    "",
    "    /**",
    "     * Store a newly created resource in storage.",
    "     */",
    "    public function store(\x7b\x7bstore_request\x7d\x7d $request): RedirectResponse",
    "    \x7b",
    "        $\x7b\x7bmodel_variable\x7d\x7d = \x7b\x7bmodel_name\x7d\x7d::create($request->validated());",
    "",
    "        return redirect()",
    "            ->route('\x7b\x7broute_prefix\x7d\x7d.show', $\x7b\x7bmodel_variable\x7d\x7d)",
    "            ->with('success', '\x7b\x7blabel\x7d\x7d created successfully.');",
    "    \x7d",
    "",
    "    /**",
    "     * Display the specified resource.",
    "     */",
    "    public function show(\x7b\x7bmodel_name\x7d\x7d $\x7b\x7bmodel_variable\x7d\x7d): View",
    "    \x7b",
    "        return view('\x7b\x7bview_folder\x7d\x7d.show', [",
    "            '\x7b\x7bmodel_variable\x7d\x7d' => $\x7b\x7bmodel_variable\x7d\x7d\x7b\x7bload_relations\x7d\x7d,",
    "        ]);",
    "    \x7d",
    "",
    "    /**",
    "     * Show the form for editing the specified resource.",
    "     */",
    "    public function edit(\x7b\x7bmodel_name\x7d\x7d $\x7b\x7bmodel_variable\x7d\x7d): View",
    "    \x7b",
    "        return view('\x7b\x7bview_folder\x7d\x7d.edit', compact('\x7b\x7bmodel_variable\x7d\x7d'));",
    "    \x7d",
    "",
    "    /**",
    "     * Update the specified resource in storage.",
    "     */",
    "    public function update(\x7b\x7bupdate_request\x7d\x7d $request, \x7b\x7bmodel_name\x7d\x7d $\x7b\x7bmodel_variable\x7d\x7d): RedirectResponse",
    "    \x7b",
    "        $\x7b\x7bmodel_variable\x7d\x7d->update($request->validated());",
    "",
    "        return redirect()",
    "            ->route('\x7b\x7broute_prefix\x7d\x7d.show', $\x7b\x7bmodel_variable\x7d\x7d)",
    "            ->with('success', '\x7b\x7blabel\x7d\x7d updated successfully.');",
    "    \x7d",
    "",
    "    /**",
    "     * Remove the specified resource from storage.",
    "     */",
    "    public function destroy(\x7b\x7bmodel_name\x7d\x7d $\x7b\x7bmodel_variable\x7d\x7d): RedirectResponse",
    "    \x7b",
    "        $\x7b\x7bmodel_variable\x7d\x7d->delete();",
    "",
    "        return redirect()",
    "            ->route('\x7b\x7broute_prefix\x7d\x7d.index')",
    "            ->with('success', '\x7b\x7blabel\x7d\x7d deleted successfully.');",
    "    \x7d",
    "\x7d",
    ""]

/-- The API resource controller. -/
def apiControllerStub : String := "\n".intercalate [
    "<?php",
    "",
    "namespace \x7b\x7bnamespace\x7d\x7d;",
    "",
    "use \x7b\x7bmodel_class\x7d\x7d;",
    "use \x7b\x7bstore_request_class\x7d\x7d;",
    "use \x7b\x7bupdate_request_class\x7d\x7d;",
    "use \x7b\x7bresource_class\x7d\x7d;",
    "use Illuminate\\Http\\JsonResponse;",
    "use Illuminate\\Http\\Request;",
    "use Illuminate\\Http\\Resources\\Json\\AnonymousResourceCollection;",
    "",
    "class \x7b\x7bclass_name\x7d\x7d extends \x7b\x7bbase_controller\x7d\x7d",
    "\x7b",
    "    /**",
    "     * Display a listing of the resource.",
    "     */",
    "    public function index(Request $request): AnonymousResourceCollection",
    "    \x7b",
    "        $query = \x7b\x7bmodel_name\x7d\x7d::query()\x7b\x7bwith_relations\x7d\x7d;",
    "",
    "        if ($search = $request->input('search')) \x7b",
    "            $query->where(function ($q) use ($search) \x7b",
    "                foreach (\x7b\x7bsearch_fields\x7d\x7d as $field) \x7b",
    "                    $q->orWhere($field, 'like', \"%\x7b$search\x7d%\");",
    "                \x7d",
    "            \x7d);",
    "        \x7d",
    "",
    "        $sort = in_array($request->input('sort'), \x7b\x7bsortable_fields\x7d\x7d, true)",
    "            ? $request->input('sort')",
    "            : 'id';",
    "        $direction = $request->input('direction') === 'asc' ? 'asc' : 'desc';",
    "",
    "        return \x7b\x7bresource_name\x7d\x7d::collection(",
    "            $query->orderBy($sort, $direction)->paginate($request->integer('per_page', \x7b\x7bper_page\x7d\x7d))",
    "        );",
    "    \x7d",
    "",
    "    /**",
    "     * Store a newly created resource in storage.",
    "     */",
    "    public function store(\x7b\x7bstore_request\x7d\x7d $request): JsonResponse",
    "    \x7b",
    "        $\x7b\x7bmodel_variable\x7d\x7d = \x7b\x7bmodel_name\x7d\x7d::create($request->validated());",
    "",
    "        return (new \x7b\x7bresource_name\x7d\x7d($\x7b\x7bmodel_variable\x7d\x7d))",
    "            ->response()",
    "            ->setStatusCode(201);",
    "    \x7d",
    "",
    "    /**",
    "     * Display the specified resource.",
    "     */",
    "    public function show(\x7b\x7bmodel_name\x7d\x7d $\x7b\x7bmodel_variable\x7d\x7d): \x7b\x7bresource_name\x7d\x7d",
    "    \x7b",
    "        return new \x7b\x7bresource_name\x7d\x7d($\x7b\x7bmodel_variable\x7d\x7d\x7b\x7bload_relations\x7d\x7d);",
    "    \x7d",
    "",
    "    /**",
    "     * Update the specified resource in storage.",
    "     */",
    "    public function update(\x7b\x7bupdate_request\x7d\x7d $request, \x7b\x7bmodel_name\x7d\x7d $\x7b\x7bmodel_variable\x7d\x7d): \x7b\x7bresource_name\x7d\x7d",
    "    \x7b",
    "        $\x7b\x7bmodel_variable\x7d\x7d->update($request->validated());",
    "",
    "        return new \x7b\x7bresource_name\x7d\x7d($\x7b\x7bmodel_variable\x7d\x7d);",
    "    \x7d",
    "",
    "    /**",
    "     * Remove the specified resource from storage.",
    "     */",
    "    public function destroy(\x7b\x7bmodel_name\x7d\x7d $\x7b\x7bmodel_variable\x7d\x7d): JsonResponse",
    "    \x7b",
    "        $\x7b\x7bmodel_variable\x7d\x7d->delete();",
    "",
    "        return response()->json(null, 204);",
    "    \x7d",
    "\x7d",
    ""]

/-- The listing view. -/
def indexViewStub : String := "\n".intercalate [
    "@extends('layouts.app')",
    "",
    "@section('content')",
    "<div class=\"\x7b\x7bcss_container\x7d\x7d\">",
    "    <div class=\"\x7b\x7bcss_header\x7d\x7d\">",
    "        <h1 class=\"\x7b\x7bcss_title\x7d\x7d\">\x7b\x7btitle_plural\x7d\x7d</h1>",
    "        <a href=\"\\\x7b\x7b route('\x7b\x7broute_prefix\x7d\x7d.create') \x7d\x7d\" class=\"\x7b\x7bcss_button_primary\x7d\x7d\">New \x7b\x7btitle\x7d\x7d</a>",
    "    </div>",
    "",
    "    @if (session('success'))",
    "        <div class=\"\x7b\x7bcss_alert_success\x7d\x7d\">\\\x7b\x7b session('success') \x7d\x7d</div>",
    "    @endif",
    "",
    "    <form method=\"GET\" action=\"\\\x7b\x7b route('\x7b\x7broute_prefix\x7d\x7d.index') \x7d\x7d\" class=\"\x7b\x7bcss_search_form\x7d\x7d\">",
    "        <input type=\"search\" name=\"search\" value=\"\\\x7b\x7b request('search') \x7d\x7d\" placeholder=\"Search...\" class=\"\x7b\x7bcss_input\x7d\x7d\">",
    "        <button type=\"submit\" class=\"\x7b\x7bcss_button_secondary\x7d\x7d\">Search</button>",
    "    </form>",
    "",
    "    <div class=\"\x7b\x7bcss_card\x7d\x7d\">",
    "        <table class=\"\x7b\x7bcss_table\x7d\x7d\">",
    "            <thead>",
    "                <tr>",
    "                    \x7b\x7btable_headers\x7d\x7d",
    "                </tr>",
    "            </thead>",
    "            <tbody>",
    "                @forelse ($\x7b\x7bmodel_variable_plural\x7d\x7d as $\x7b\x7bmodel_variable\x7d\x7d)",
    "                <tr>",
    "                    \x7b\x7btable_body\x7d\x7d",
    "                    <td class=\"\x7b\x7bcss_td_actions\x7d\x7d\">",
    "                        <a href=\"\\\x7b\x7b route('\x7b\x7broute_prefix\x7d\x7d.show', $\x7b\x7bmodel_variable\x7d\x7d) \x7d\x7d\" class=\"\x7b\x7bcss_link\x7d\x7d\">View</a>",
    "                        <a href=\"\\\x7b\x7b route('\x7b\x7broute_prefix\x7d\x7d.edit', $\x7b\x7bmodel_variable\x7d\x7d) \x7d\x7d\" class=\"\x7b\x7bcss_link\x7d\x7d\">Edit</a>",
    "                        <form method=\"POST\" action=\"\\\x7b\x7b route('\x7b\x7broute_prefix\x7d\x7d.destroy', $\x7b\x7bmodel_variable\x7d\x7d) \x7d\x7d\" class=\"\x7b\x7bcss_inline_form\x7d\x7d\" onsubmit=\"return confirm('Are you sure?')\">",
    "                            @csrf",
    "                            @method('DELETE')",
    "                            <button type=\"submit\" class=\"\x7b\x7bcss_link_danger\x7d\x7d\">Delete</button>",
    "                        </form>",
    "                    </td>",
    "                </tr>",
    "                @empty",
    "                <tr>",
    "                    <td colspan=\"\x7b\x7bcolumn_count\x7d\x7d\" class=\"\x7b\x7bcss_td_empty\x7d\x7d\">No \x7b\x7btitle_plural_lower\x7d\x7d found.</td>",
    "                </tr>",
    "                @endforelse",
    "            </tbody>",
    "        </table>",
    "    </div>",
    "",
    "    <div class=\"\x7b\x7bcss_pagination\x7d\x7d\">",
    "        \\\x7b\x7b $\x7b\x7bmodel_variable_plural\x7d\x7d->links() \x7d\x7d",
    "    </div>",
    "</div>",
    "@endsection",
    ""]

/-- The create view. -/
def createViewStub : String := "\n".intercalate [
    "@extends('layouts.app')",
    "",
    "@section('content')",
    "<div class=\"\x7b\x7bcss_container\x7d\x7d\">",
    "    <div class=\"\x7b\x7bcss_header\x7d\x7d\">",
    "        <h1 class=\"\x7b\x7bcss_title\x7d\x7d\">New \x7b\x7btitle\x7d\x7d</h1>",
    "        <a href=\"\\\x7b\x7b route('\x7b\x7broute_prefix\x7d\x7d.index') \x7d\x7d\" class=\"\x7b\x7bcss_button_secondary\x7d\x7d\">Back</a>",
    "    </div>",
    "",
    "    <div class=\"\x7b\x7bcss_card\x7d\x7d\">",
    "        <form method=\"POST\" action=\"\\\x7b\x7b route('\x7b\x7broute_prefix\x7d\x7d.store') \x7d\x7d\" class=\"\x7b\x7bcss_form\x7d\x7d\">",
    "            @csrf",
    "",
    "            @include('\x7b\x7bview_folder\x7d\x7d._form', ['\x7b\x7bmodel_variable\x7d\x7d' => null])",
    "",
    "            <div class=\"\x7b\x7bcss_form_actions\x7d\x7d\">",
    "                <a href=\"\\\x7b\x7b route('\x7b\x7broute_prefix\x7d\x7d.index') \x7d\x7d\" class=\"\x7b\x7bcss_button_secondary\x7d\x7d\">Cancel</a>",
    "                <button type=\"submit\" class=\"\x7b\x7bcss_button_primary\x7d\x7d\">Create</button>",
    "            </div>",
    "        </form>",
    "    </div>",
    "</div>",
    "@endsection",
    ""]

/-- The edit view. -/
def editViewStub : String := "\n".intercalate [
    "@extends('layouts.app')",
    "",
    "@section('content')",
    "<div class=\"\x7b\x7bcss_container\x7d\x7d\">",
    "    <div class=\"\x7b\x7bcss_header\x7d\x7d\">",
    "        <h1 class=\"\x7b\x7bcss_title\x7d\x7d\">Edit \x7b\x7btitle\x7d\x7d</h1>",
    "        <a href=\"\\\x7b\x7b route('\x7b\x7broute_prefix\x7d\x7d.show', $\x7b\x7bmodel_variable\x7d\x7d) \x7d\x7d\" class=\"\x7b\x7bcss_button_secondary\x7d\x7d\">Back</a>",
    "    </div>",
    "",
    "    <div class=\"\x7b\x7bcss_card\x7d\x7d\">",
    "        <form method=\"POST\" action=\"\\\x7b\x7b route('\x7b\x7broute_prefix\x7d\x7d.update', $\x7b\x7bmodel_variable\x7d\x7d) \x7d\x7d\" class=\"\x7b\x7bcss_form\x7d\x7d\">",
    "            @csrf",
    "            @method('PUT')",
    "",
    "            @include('\x7b\x7bview_folder\x7d\x7d._form')",
    "",
    "            <div class=\"\x7b\x7bcss_form_actions\x7d\x7d\">",
    "                <a href=\"\\\x7b\x7b route('\x7b\x7broute_prefix\x7d\x7d.show', $\x7b\x7bmodel_variable\x7d\x7d) \x7d\x7d\" class=\"\x7b\x7bcss_button_secondary\x7d\x7d\">Cancel</a>",
    "                <button type=\"submit\" class=\"\x7b\x7bcss_button_primary\x7d\x7d\">Save</button>",
    "            </div>",
    "        </form>",
    "    </div>",
    "</div>",
    "@endsection",
    ""]

/-- The detail view. -/
def showViewStub : String := "\n".intercalate [
    "@extends('layouts.app')",
    "",
    "@section('content')",
    "<div class=\"\x7b\x7bcss_container\x7d\x7d\">",
    "    <div class=\"\x7b\x7bcss_header\x7d\x7d\">",
    "        <h1 class=\"\x7b\x7bcss_title\x7d\x7d\">\x7b\x7btitle\x7d\x7d #\\\x7b\x7b $\x7b\x7bmodel_variable\x7d\x7d->id \x7d\x7d</h1>",
    "        <div>",
    "            <a href=\"\\\x7b\x7b route('\x7b\x7broute_prefix\x7d\x7d.edit', $\x7b\x7bmodel_variable\x7d\x7d) \x7d\x7d\" class=\"\x7b\x7bcss_button_primary\x7d\x7d\">Edit</a>",
    "            <a href=\"\\\x7b\x7b route('\x7b\x7broute_prefix\x7d\x7d.index') \x7d\x7d\" class=\"\x7b\x7bcss_button_secondary\x7d\x7d\">Back</a>",
    "        </div>",
    "    </div>",
    "",
    "    @if (session('success'))",
    "        <div class=\"\x7b\x7bcss_alert_success\x7d\x7d\">\\\x7b\x7b session('success') \x7d\x7d</div>",
    "    @endif",
    "",
    "    <div class=\"\x7b\x7bcss_card\x7d\x7d\">",
    "        <dl class=\"\x7b\x7bcss_detail_list\x7d\x7d\">",
    "            \x7b\x7bdetail_fields\x7d\x7d",
    "        </dl>",
    "    </div>",
    "</div>",
    "@endsection",
    ""]

/-- The form partial shared by create and edit. -/
def formViewStub : String := "\n".intercalate [
    "<div class=\"\x7b\x7bcss_form_fields\x7d\x7d\">",
    "    \x7b\x7bform_fields\x7d\x7d",
    "</div>",
    ""]

/-- The web route group of a model. -/
def webRoutesStub : String := "\n".intercalate [
    "",
    "",
    "// \x7b\x7bmodel_name\x7d\x7d Routes",
    "Route::middleware(\x7b\x7bmiddleware\x7d\x7d)\x7b\x7bprefix_call\x7d\x7d->group(function () \x7b",
    "    Route::resource('\x7b\x7broute_prefix\x7d\x7d', \x7b\x7bcontroller_class\x7d\x7d::class)->names('\x7b\x7broute_name\x7d\x7d');",
    "\x7d);",
    ""]

/-- The API route group of a model. -/
def apiRoutesStub : String := "\n".intercalate [
    "",
    "",
    "// \x7b\x7bmodel_name\x7d\x7d API Routes",
    "Route::middleware(\x7b\x7bmiddleware\x7d\x7d)->prefix('v1')->group(function () \x7b",
    "    Route::apiResource('\x7b\x7broute_prefix\x7d\x7d', \x7b\x7bcontroller_class\x7d\x7d::class)->names('\x7b\x7broute_name\x7d\x7d');",
    "\x7d);",
    ""]

/-- Every bundled stub by name. -/
def bundled : List (String × String) := [
  ("migration", migrationStub),
  ("migration.pivot", pivotMigrationStub),
  ("model", modelStub),
  ("factory", factoryStub),
  ("seeder", seederStub),
  ("request", requestStub),
  ("resource", resourceStub),
  ("controller", controllerStub),
  ("controller.api", apiControllerStub),
  ("views/index", indexViewStub),
  ("views/create", createViewStub),
  ("views/edit", editViewStub),
  ("views/show", showViewStub),
  ("views/form", formViewStub),
  ("routes.web", webRoutesStub),
  ("routes.api", apiRoutesStub)]

/-- The bundled stub of a name. -/
def bundled? (name : String) : Option String :=
  (bundled.find? (·.1 == name)).map (·.2)

end CrudScaffold.Stub
