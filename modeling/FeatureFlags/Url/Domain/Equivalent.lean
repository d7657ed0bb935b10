import FeatureFlags.Text.Pieces

/-!
# Characters that stand for others

Variants of characters that differ in width, position or shape only, signs that abbreviate words,
and characters that are written in two ways. In a domain the plain form takes their place.
-/
namespace FeatureFlags.Url

/-- Characters in a row, from a code point on, and the texts for which they stand, between
blanks. -/
structure Equivalents where
  first : Nat
  texts : String

private def equivalents1 : List Equivalents :=
  [⟨0xaa, "a"⟩, ⟨0xb2, "2 3"⟩, ⟨0xb9, "1 o"⟩, ⟨0xbc, "1⁄4 1⁄2 3⁄4"⟩, ⟨0x130, "i̇"⟩, ⟨0x133, "ij"⟩,
   ⟨0x140, "l·"⟩, ⟨0x149, "ʼn"⟩, ⟨0x1c6, "dž"⟩, ⟨0x1c9, "lj"⟩, ⟨0x1cc, "nj"⟩, ⟨0x1f3, "dz"⟩,
   ⟨0x2b0, "h ɦ j r ɹ ɻ ʁ w y"⟩, ⟨0x2e0, "ɣ l s x ʕ"⟩, ⟨0x340, "\u0300 \u0301"⟩,
   ⟨0x343, "\u0313 \u0308́"⟩, ⟨0x374, "ʹ"⟩, ⟨0x37e, ";"⟩, ⟨0x387, "·"⟩, ⟨0x3d2, "υ ύ ϋ"⟩,
   ⟨0x3f2, "σ"⟩, ⟨0x558, "է"⟩, ⟨0x587, "եւ"⟩, ⟨0x58b, "ի"⟩, ⟨0x675, "اٴ وٴ ۇٴ يٴ"⟩,
   ⟨0x958, "क़ ख़ ग़ ज़ ड़ ढ़ फ़ य़"⟩,
   ⟨0x9dc, "ড় ঢ়"⟩, ⟨0x9df, "য়"⟩, ⟨0xa33, "ਲ਼"⟩, ⟨0xa36, "ਸ਼"⟩, ⟨0xa59, "ਖ਼ ਗ਼ ਜ਼"⟩,
   ⟨0xa5e, "ਫ਼"⟩, ⟨0xb5c, "ଡ଼ ଢ଼"⟩, ⟨0xe33, "\u0e4dา"⟩, ⟨0xeb3, "\u0ecdາ"⟩, ⟨0xedc, "ຫນ ຫມ"⟩,
   ⟨0xf0c, "་"⟩, ⟨0xf43, "གྷ"⟩, ⟨0xf4d, "ཌྷ"⟩, ⟨0xf52, "དྷ"⟩, ⟨0xf57, "བྷ"⟩, ⟨0xf5c, "ཛྷ"⟩,
   ⟨0xf69, "ཀྵ"⟩, ⟨0xf73, "\u0f71ི"⟩, ⟨0xf75, "\u0f71ུ \u0fb2ྀ \u0fb2ཱྀ \u0fb3ྀ \u0fb3ཱྀ"⟩,
   ⟨0xf81, "\u0f71ྀ"⟩, ⟨0xf93, "\u0f92ྷ"⟩, ⟨0xf9d, "\u0f9cྷ"⟩, ⟨0xfa2, "\u0fa1ྷ"⟩,
   ⟨0xfa7, "\u0fa6ྷ"⟩, ⟨0xfac, "\u0fabྷ"⟩, ⟨0xfb9, "\u0f90ྵ"⟩, ⟨0x10fc, "ნ"⟩, ⟨0x1d2c, "a æ b"⟩,
   ⟨0x1d30, "d e ǝ g h i j k l m n"⟩, ⟨0x1d3c, "o ȣ p r t u w a ɐ ɑ ᴂ b d e ə ɛ ɜ g"⟩,
   ⟨0x1d4f, "k m ŋ o ɔ ᴖ ᴗ p t u ᴝ ɯ v ᴥ β γ δ φ χ i r u v β γ ρ φ χ"⟩, ⟨0x1d78, "н"⟩,
   ⟨0x1d9b, "ɒ c ɕ ð ɜ f ɟ ɡ ɥ ɨ ɩ ɪ ᵻ ʝ ɭ ᶅ ʟ ɱ ɰ ɲ ɳ ɴ ɵ ɸ ʂ ʃ ƫ ʉ ʊ ᴜ ʋ ʌ z ʐ ʑ ʒ θ"⟩,
   ⟨0x1e9a, "aʾ"⟩, ⟨0x1f71, "ά"⟩, ⟨0x1f73, "έ"⟩, ⟨0x1f75, "ή"⟩, ⟨0x1f77, "ί"⟩, ⟨0x1f79, "ό"⟩,
   ⟨0x1f7b, "ύ"⟩, ⟨0x1f7d, "ώ"⟩, ⟨0x1f80, "ἀι ἁι ἂι ἃι ἄι ἅι ἆι ἇι"⟩,
   ⟨0x1f90, "ἠι ἡι ἢι ἣι ἤι ἥι ἦι ἧι"⟩, ⟨0x1fa0, "ὠι ὡι ὢι ὣι ὤι ὥι ὦι ὧι"⟩, ⟨0x1fb2, "ὰι αι άι"⟩,
   ⟨0x1fb7, "ᾶι"⟩, ⟨0x1fc2, "ὴι ηι ήι"⟩, ⟨0x1fc7, "ῆι"⟩, ⟨0x1fef, "\x60"⟩, ⟨0x1ff2, "ὼι ωι ώι"⟩,
   ⟨0x1ff7, "ῶι"⟩, ⟨0x2011, "‐"⟩, ⟨0x2033, "′′ ′′′"⟩, ⟨0x2036, "‵‵ ‵‵‵"⟩, ⟨0x203c, "!!"⟩,
   ⟨0x2047, "?? ?! !?"⟩, ⟨0x2057, "′′′′"⟩, ⟨0x2070, "0 i"⟩,
   ⟨0x2074, "4 5 6 7 8 9 + − = ( ) n 0 1 2 3 4 5 6 7 8 9 + − = ( )"⟩,
   ⟨0x2090, "a e o x ə h k l m n p s t w y z"⟩, ⟨0x20a8, "rs"⟩, ⟨0x2100, "a/c a/s c °c"⟩,
   ⟨0x2105, "c/o c/u ɛ"⟩, ⟨0x2109, "°f g h h h h ħ i i l l"⟩, ⟨0x2115, "n no"⟩,
   ⟨0x2119, "p q r r r"⟩, ⟨0x2120, "sm tel tm"⟩, ⟨0x2124, "z"⟩, ⟨0x2128, "z"⟩, ⟨0x212c, "b c"⟩,
   ⟨0x212f, "e e f"⟩, ⟨0x2133, "m o א ב ג ד i"⟩, ⟨0x213b, "fax π γ γ π ∑"⟩, ⟨0x2145, "d d e i j"⟩,
   ⟨0x2150, "1⁄7 1⁄9 1⁄10 1⁄3 2⁄3 1⁄5 2⁄5 3⁄5 4⁄5 1⁄6 5⁄6 1⁄8 3⁄8 5⁄8 7⁄8 1⁄"⟩,
   ⟨0x2170, "i ii iii iv v vi vii viii ix x xi xii l c d m"⟩, ⟨0x2189, "0⁄3"⟩, ⟨0x222c, "∫∫ ∫∫∫"⟩,
   ⟨0x222f, "∮∮ ∮∮∮"⟩, ⟨0x2329, "〈 〉"⟩,
   ⟨0x2460, "1 2 3 4 5 6 7 8 9 10 11 12 13 14 15 16 17 18 19 20 (1) (2) (3) (4) (5) (6) (7)"⟩,
   ⟨0x247b, "(8) (9) (10) (11) (12) (13) (14) (15) (16) (17) (18) (19) (20)"⟩,
   ⟨0x249c, "(a) (b) (c) (d) (e) (f) (g) (h) (i) (j) (k) (l) (m) (n) (o) (p) (q) (r) (s)"⟩,
   ⟨0x24af, "(t) (u) (v) (w) (x) (y) (z)"⟩,
   ⟨0x24d0, "a b c d e f g h i j k l m n o p q r s t u v w x y z 0"⟩, ⟨0x2a0c, "∫∫∫∫"⟩,
   ⟨0x2a74, "::= == ==="⟩, ⟨0x2adc, "⫝̸"⟩, ⟨0x2c7c, "j v"⟩, ⟨0x2d6f, "ⵡ"⟩, ⟨0x2e9f, "母"⟩,
   ⟨0x2ef3, "龟"⟩,
   ⟨0x2f00, "一 丨 丶 丿 乙 亅 二 亠 人 儿 入 八 冂 冖 冫 几 凵 刀 力 勹 匕 匚 匸 十 卜 卩 厂 厶 又 口 囗 土 士 夂 夊 夕 大 女 子"⟩,
   ⟨0x2f27, "宀 寸 小 尢 尸 屮 山 巛 工 己 巾 干 幺 广 廴 廾 弋 弓 彐 彡 彳 心 戈 戶 手 支 攴 文 斗 斤 方 无 日 曰 月 木 欠 止 歹"⟩,
   ⟨0x2f4e, "殳 毋 比 毛 氏 气 水 火 爪 父 爻 爿 片 牙 牛 犬 玄 玉 瓜 瓦 甘 生 用 田 疋 疒 癶 白 皮 皿 目 矛 矢 石 示 禸 禾 穴 立"⟩,
   ⟨0x2f75, "竹 米 糸 缶 网 羊 羽 老 而 耒 耳 聿 肉 臣 自 至 臼 舌 舛 舟 艮 色 艸 虍 虫 血 行 衣 襾 見 角 言 谷 豆 豕 豸 貝 赤 走"⟩,
   ⟨0x2f9c, "足 身 車 辛 辰 辵 邑 酉 釆 里 金 長 門 阜 隶 隹 雨 靑 非 面 革 韋 韭 音 頁 風 飛 食 首 香 馬 骨 高 髟 鬥 鬯 鬲 鬼 魚"⟩,
   ⟨0x2fc3, "鳥 鹵 鹿 麥 麻 黃 黍 黑 黹 黽 鼎 鼓 鼠 鼻 齊 齒 龍 龜 龠"⟩, ⟨0x3002, "."⟩, ⟨0x3036, "〒"⟩,
   ⟨0x3038, "十 卄 卅"⟩, ⟨0x309f, "より"⟩, ⟨0x30ff, "コト"⟩,
   ⟨0x3131, "ᄀ ᄁ ᆪ ᄂ ᆬ ᆭ ᄃ ᄄ ᄅ ᆰ ᆱ ᆲ ᆳ ᆴ ᆵ ᄚ ᄆ ᄇ ᄈ ᄡ ᄉ ᄊ ᄋ ᄌ ᄍ ᄎ ᄏ ᄐ ᄑ ᄒ ᅡ ᅢ ᅣ ᅤ ᅥ ᅦ ᅧ ᅨ ᅩ"⟩,
   ⟨0x3158, "ᅪ ᅫ ᅬ ᅭ ᅮ ᅯ ᅰ ᅱ ᅲ ᅳ ᅴ ᅵ"⟩,
   ⟨0x3165, "ᄔ ᄕ ᇇ ᇈ ᇌ ᇎ ᇓ ᇗ ᇙ ᄜ ᇝ ᇟ ᄝ ᄞ ᄠ ᄢ ᄣ ᄧ ᄩ ᄫ ᄬ ᄭ ᄮ ᄯ ᄲ ᄶ ᅀ ᅇ ᅌ ᇱ ᇲ ᅗ ᅘ ᅙ ᆄ ᆅ ᆈ ᆑ ᆒ"⟩,
   ⟨0x318c, "ᆔ ᆞ ᆡ"⟩, ⟨0x3192, "一 二 三 四 上 中 下 甲 乙 丙 丁 天 地 人"⟩,
   ⟨0x3200, "(ᄀ) (ᄂ) (ᄃ) (ᄅ) (ᄆ) (ᄇ) (ᄉ) (ᄋ) (ᄌ) (ᄎ) (ᄏ) (ᄐ) (ᄑ) (ᄒ) (가) (나) (다) (라) (마)"⟩,
   ⟨0x3213, "(바) (사) (아) (자) (차) (카) (타) (파) (하) (주) (오전) (오후)"⟩,
   ⟨0x3220, "(一) (二) (三) (四) (五) (六) (七) (八) (九) (十) (月) (火) (水) (木) (金) (土) (日) (株) (有)"⟩,
   ⟨0x3233, "(社) (名) (特) (財) (祝) (労) (代) (呼) (学) (監) (企) (資) (協) (祭) (休) (自) (至) 問 幼 文 箏"⟩,
   ⟨0x3250, "pte 21 22 23 24 25 26 27 28 29 30 31 32 33 34 35 ᄀ ᄂ ᄃ ᄅ ᄆ ᄇ ᄉ ᄋ ᄌ ᄎ ᄏ ᄐ ᄑ ᄒ 가"⟩,
   ⟨0x326f, "나 다 라 마 바 사 아 자 차 카 타 파 하 참고 주의 우"⟩,
   ⟨0x3280, "一 二 三 四 五 六 七 八 九 十 月 火 水 木 金 土 日 株 有 社 名 特 財 祝 労 秘 男 女 適 優 印 注 項 休 写 正 上 中 下"⟩,
   ⟨0x32a7, "左 右 医 宗 学 監 企 資 協 夜 36 37 38 39 40 41 42 43 44 45 46 47 48 49 50 1月 2月 3月 4月"⟩,
   ⟨0x32c4, "5月 6月 7月 8月 9月 10月 11月 12月 hg erg ev ltd ア イ ウ エ オ カ キ ク ケ コ サ シ ス セ ソ タ チ ツ テ"⟩,
   ⟨0x32e3, "ト ナ ニ ヌ ネ ノ ハ ヒ フ ヘ ホ マ ミ ム メ モ ヤ ユ ヨ ラ リ ル レ ロ ワ ヰ ヱ ヲ 令和 アパート アルファ アンペア アール"⟩,
   ⟨0x3304, "イニング インチ ウォン エスクード エーカー オンス オーム カイリ カラット カロリー ガロン ガンマ ギガ ギニー キュリー ギルダー キロ"⟩,
   ⟨0x3315, "キログラム キロメートル キロワット グラム グラムトン クルゼイロ クローネ ケース コルナ コーポ サイクル サンチーム シリング センチ セント"⟩,
   ⟨0x3324, "ダース デシ ドル トン ナノ ノット ハイツ パーセント パーツ バーレル ピアストル ピクル ピコ ビル ファラッド フィート ブッシェル フラン"⟩,
   ⟨0x3336, "ヘクタール ペソ ペニヒ ヘルツ ペンス ページ ベータ ポイント ボルト ホン ポンド ホール ホーン マイクロ マイル マッハ マルク マンション"⟩,
   ⟨0x3348, "ミクロン ミリ ミリバール メガ メガトン メートル ヤード ヤール ユアン リットル リラ ルピー ルーブル レム レントゲン ワット 0点 1点 2点"⟩,
   ⟨0x335b, "3点 4点 5点 6点 7点 8点 9点 10点 11点 12点 13点 14点 15点 16点 17点 18点 19点 20点 21点 22点 23点"⟩,
   ⟨0x3370, "24点 hpa da au bar ov pc dm dm2 dm3 iu 平成 昭和 大正 明治 株式会社 pa na μa ma ka kb mb gb"⟩,
   ⟨0x3388, "cal kcal pf nf μf μg mg kg hz khz mhz ghz thz μl ml dl kl fm nm μm mm cm km"⟩,
   ⟨0x339f, "mm2 cm2 m2 km2 mm3 cm3 m3 km3 m∕s m∕s2 pa kpa mpa gpa rad rad∕s rad∕s2 ps ns"⟩,
   ⟨0x33b2, "μs ms pv nv μv mv kv mv pw nw μw mw kw mw kω mω"⟩, ⟨0x33c3, "bq cc cd c∕kg"⟩,
   ⟨0x33c8, "db gy ha hp in kk km kt lm ln log lx mb mil mol ph"⟩,
   ⟨0x33d9, "ppm pr sr sv wb v∕m a∕m 1日 2日 3日 4日 5日 6日 7日 8日 9日 10日 11日 12日 13日 14日 15日 16日"⟩,
   ⟨0x33f0, "17日 18日 19日 20日 21日 22日 23日 24日 25日 26日 27日 28日 29日 30日 31日 gal"⟩, ⟨0xa69c, "ъ ь"⟩,
   ⟨0xa770, "ꝯ"⟩, ⟨0xa7ce, "꟏"⟩, ⟨0xa7d2, "ꟓ"⟩, ⟨0xa7d4, "ꟕ"⟩, ⟨0xa7dd, "ɷ ɸ ɹ ɺ ɻ ɼ"⟩,
   ⟨0xa7f1, "s c f q"⟩, ⟨0xa7f8, "ħ œ"⟩, ⟨0xab5c, "ꜧ ꬷ ɫ ꭒ"⟩, ⟨0xab69, "ʍ"⟩, ⟨0xab6c, "ꭋ ꭌ"⟩,
   ⟨0xf900, "豈 更 車 賈 滑 串 句 龜 龜 契 金 喇 奈 懶 癩 羅 蘿 螺 裸 邏 樂 洛 烙 珞 落 酪 駱 亂 卵 欄 爛 蘭 鸞 嵐 濫 藍 襤 拉 臘"⟩,
   ⟨0xf927, "蠟 廊 朗 浪 狼 郎 來 冷 勞 擄 櫓 爐 盧 老 蘆 虜 路 露 魯 鷺 碌 祿 綠 菉 錄 鹿 論 壟 弄 籠 聾 牢 磊 賂 雷 壘 屢 樓 淚"⟩,
   ⟨0xf94e, "漏 累 縷 陋 勒 肋 凜 凌 稜 綾 菱 陵 讀 拏 樂 諾 丹 寧 怒 率 異 北 磻 便 復 不 泌 數 索 參 塞 省 葉 說 殺 辰 沈 拾 若"⟩,
   ⟨0xf975, "掠 略 亮 兩 凉 梁 糧 良 諒 量 勵 呂 女 廬 旅 濾 礪 閭 驪 麗 黎 力 曆 歷 轢 年 憐 戀 撚 漣 煉 璉 秊 練 聯 輦 蓮 連 鍊"⟩,
   ⟨0xf99c, "列 劣 咽 烈 裂 說 廉 念 捻 殮 簾 獵 令 囹 寧 嶺 怜 玲 瑩 羚 聆 鈴 零 靈 領 例 禮 醴 隸 惡 了 僚 寮 尿 料 樂 燎 療 蓼"⟩]

private def equivalents2 : List Equivalents :=
  [⟨0xf9c3, "遼 龍 暈 阮 劉 杻 柳 流 溜 琉 留 硫 紐 類 六 戮 陸 倫 崙 淪 輪 律 慄 栗 率 隆 利 吏 履 易 李 梨 泥 理 痢 罹 裏 裡 里"⟩,
   ⟨0xf9ea, "離 匿 溺 吝 燐 璘 藺 隣 鱗 麟 林 淋 臨 立 笠 粒 狀 炙 識 什 茶 刺 切 度 拓 糖 宅 洞 暴 輻 行 降 見 廓 兀 嗀"⟩,
   ⟨0xfa10, "塚"⟩, ⟨0xfa12, "晴"⟩, ⟨0xfa15, "凞 猪 益 礼 神 祥 福 靖 精 羽"⟩, ⟨0xfa20, "蘒"⟩, ⟨0xfa22, "諸"⟩,
   ⟨0xfa25, "逸 都"⟩,
   ⟨0xfa2a, "飯 飼 館 鶴 郞 隷 侮 僧 免 勉 勤 卑 喝 嘆 器 塀 墨 層 屮 悔 慨 憎 懲 敏 既 暑 梅 海 渚 漢 煮 爫 琢 碑 社 祉 祈 祐 祖"⟩,
   ⟨0xfa51, "祝 禍 禎 穀 突 節 練 縉 繁 署 者 臭 艹 艹 著 褐 視 謁 謹 賓 贈 辶 逸 難 響 頻 恵 𤋮 舘"⟩,
   ⟨0xfa70, "並 况 全 侀 充 冀 勇 勺 喝 啕 喙 嗢 塚 墳 奄 奔 婢 嬨 廒 廙 彩 徭 惘 慎 愈 憎 慠 懲 戴 揄 搜 摒 敖 晴 朗 望 杖 歹 殺"⟩,
   ⟨0xfa97, "流 滛 滋 漢 瀞 煮 瞧 爵 犯 猪 瑱 甆 画 瘝 瘟 益 盛 直 睊 着 磌 窱 節 类 絛 練 缾 者 荒 華 蝹 襁 覆 視 調 諸 請 謁 諾"⟩,
   ⟨0xfabe, "諭 謹 變 贈 輸 遲 醙 鉶 陼 難 靖 韛 響 頋 頻 鬒 龜 𢡊 𢡄 𣏕 㮝 䀘 䀹 𥉉 𥳐 𧻓 齃 龎"⟩,
   ⟨0xfb00, "ff fi fl ffi ffl"⟩, ⟨0xfb06, "st"⟩, ⟨0xfb13, "մն մե մի վն մխ"⟩, ⟨0xfb1d, "יִ"⟩,
   ⟨0xfb1f, "ײַ ע א ד ה כ ל ם ר ת + שׁ שׂ שּׁ שּׂ אַ אָ אּ בּ גּ דּ הּ וּ זּ"⟩,
   ⟨0xfb38, "טּ יּ ךּ כּ לּ"⟩, ⟨0xfb3e, "מּ"⟩, ⟨0xfb40, "נּ סּ"⟩, ⟨0xfb43, "ףּ פּ"⟩,
   ⟨0xfb46, "צּ קּ רּ שּ תּ וֹ בֿ כֿ פֿ אל ٱ ٱ ٻ ٻ ٻ ٻ پ پ پ پ ڀ ڀ ڀ ڀ ٺ ٺ ٺ ٺ ٿ ٿ ٿ ٿ ٹ ٹ"⟩,
   ⟨0xfb68, "ٹ ٹ ڤ ڤ ڤ ڤ ڦ ڦ ڦ ڦ ڄ ڄ ڄ ڄ ڃ ڃ ڃ ڃ چ چ چ چ ڇ ڇ ڇ ڇ ڍ ڍ ڌ ڌ ڎ ڎ ڈ ڈ ژ ژ ڑ ڑ ک"⟩,
   ⟨0xfb8f, "ک ک ک گ گ گ گ ڳ ڳ ڳ ڳ ڱ ڱ ڱ ڱ ں ں ڻ ڻ ڻ ڻ ۀ ۀ ہ ہ ہ ہ ھ ھ ھ ھ ے ے ۓ ۓ"⟩,
   ⟨0xfbd3, "ڭ ڭ ڭ ڭ ۇ ۇ ۆ ۆ ۈ ۈ ۇٴ ۋ ۋ ۅ ۅ ۉ ۉ ې ې ې ې ى ى ئا ئا ئە ئە ئو ئو ئۇ ئۇ ئۆ ئۆ"⟩,
   ⟨0xfbf4, "ئۈ ئۈ ئې ئې ئې ئى ئى ئى ی ی ی ی ئج ئح ئم ئى ئي بج بح بخ بم بى بي تج تح تخ تم"⟩,
   ⟨0xfc0f, "تى تي ثج ثم ثى ثي جح جم حج حم خج خح خم سج سح سخ سم صح صم ضج ضح ضخ ضم طح طم ظم"⟩,
   ⟨0xfc29, "عج عم غج غم فج فح فخ فم فى في قح قم قى قي كا كج كح كخ كل كم كى كي لج لح لخ لم"⟩,
   ⟨0xfc43, "لى لي مج مح مخ مم مى مي نج نح نخ نم نى ني هج هم هى هي يج يح يخ يم يى يي ذٰ رٰ"⟩,
   ⟨0xfc5d, "ىٰ"⟩,
   ⟨0xfc64, "ئر ئز ئم ئن ئى ئي بر بز بم بن بى بي تر تز تم تن تى تي ثر ثز ثم ثن ثى ثي فى في"⟩,
   ⟨0xfc7e, "قى قي كا كل كم كى كي لم لى لي ما مم نر نز نم نن نى ني ىٰ ير يز يم ين يى يي ئج"⟩,
   ⟨0xfc98, "ئح ئخ ئم ئه بج بح بخ بم به تج تح تخ تم ته ثم جح جم حج حم خج خم سج سح سخ سم صح"⟩,
   ⟨0xfcb2, "صخ صم ضج ضح ضخ ضم طح ظم عج عم غج غم فج فح فخ فم قح قم كج كح كخ كل كم لج لح لخ"⟩,
   ⟨0xfccc, "لم له مج مح مخ مم نج نح نخ نم نه هج هم هٰ يج يح يخ يم يه ئم ئه بم به تم ته ثم"⟩,
   ⟨0xfce6, "ثه سم سه شم شه كل كم لم نم نه يم يه ـَّ ـُّ ـِّ طى طي عى عي غى غي سى سي شى شي"⟩,
   ⟨0xfcff, "حى حي جى جي خى خي صى صي ضى ضي شج شح شخ شم شر سر صر ضر طى طي عى عي غى غي سى سي"⟩,
   ⟨0xfd19, "شى شي حى حي جى جي خى خي صى صي ضى ضي شج شح شخ شم شر سر صر ضر شج شح شخ شم سه شه"⟩,
   ⟨0xfd33, "طم سج سح سخ شج شح شخ طم ظم اً اً"⟩,
   ⟨0xfd50, "تجم تحج تحج تحم تخم تمج تمح تمخ جمح جمح حمي حمى سحج سجح سجى سمح سمح سمج سمم"⟩,
   ⟨0xfd63, "سمم صحح صحح صمم شحم شحم شجي شمخ شمخ شمم شمم ضحى ضخم ضخم طمح طمح طمم طمي عجم"⟩,
   ⟨0xfd76, "عمم عمم عمى غمم غمي غمى فخم فخم قمح قمم لحم لحي لحى لجج لجج لخم لخم لمح لمح"⟩,
   ⟨0xfd89, "محج محم محي مجح مجم مخج مخم"⟩,
   ⟨0xfd92, "مجخ همج همم نحم نحى نجم نجم نجى نمي نمى يمم يمم بخي تجي تجى تخي تخى تمي تمى"⟩,
   ⟨0xfda5, "جمي جحى جمى سخى صحي شحي ضحي لجي لمي يحي يجي يمي ممي قمي نحي قمح لحم عمي كمي"⟩,
   ⟨0xfdb8, "نجح مخي لجم كمم لجم نجح جحي حجي مجي فمي بحي كمم عجم صمم سخي نجي"⟩,
   ⟨0xfdf0, "صلے قلے الله اكبر محمد صلعم رسول عليه وسلم صلى"⟩, ⟨0xfdfc, "ریال"⟩, ⟨0xfe10, ", 、"⟩,
   ⟨0xfe13, ": ; ! ? 〖 〗"⟩, ⟨0xfe31, "— – _ _ ( ) \x7b \x7d 〔 〕 【 】 《 》 〈 〉 「 」 『 』"⟩,
   ⟨0xfe47, "[ ]"⟩, ⟨0xfe4d, "_ _ _ , 、"⟩, ⟨0xfe54, "; : ? ! — ( ) \x7b \x7d 〔 〕 # & * + - < > ="⟩,
   ⟨0xfe68, "\\ $ % @"⟩, ⟨0xfe71, "ـً"⟩, ⟨0xfe77, "ـَ"⟩, ⟨0xfe79, "ـُ"⟩, ⟨0xfe7b, "ـِ"⟩,
   ⟨0xfe7d, "ـّ"⟩,
   ⟨0xfe7f, "ـْ ء آ آ أ أ ؤ ؤ إ إ ئ ئ ئ ئ ا ا ب ب ب ب ة ة ت ت ت ت ث ث ث ث ج ج ج ج ح ح ح ح خ"⟩,
   ⟨0xfea6, "خ خ خ د د ذ ذ ر ر ز ز س س س س ش ش ش ش ص ص ص ص ض ض ض ض ط ط ط ط ظ ظ ظ ظ ع ع ع ع"⟩,
   ⟨0xfecd, "غ غ غ غ ف ف ف ف ق ق ق ق ك ك ك ك ل ل ل ل م م م م ن ن ن ن ه ه ه ه و و ى ى ي ي ي"⟩,
   ⟨0xfef4, "ي لآ لآ لأ لأ لإ لإ لا لا"⟩,
   ⟨0xff01, "! \x22 # $ % & \x27 ( ) * + , - . / 0 1 2 3 4 5 6 7 8 9 : ; < = > ? @"⟩,
   ⟨0xff3b, "[ \\ ] ^ _ \x60 a b c d e f g h i j k l m n o p q r s t u v w x y z"⟩,
   ⟨0xff5b, "\x7b | \x7d ~ ⦅ ⦆ ."⟩,
   ⟨0xff62, "「 」 、 ・ ヲ ァ ィ ゥ ェ ォ ャ ュ ョ ッ ー ア イ ウ エ オ カ キ ク ケ コ サ シ ス セ ソ タ チ ツ テ ト ナ ニ ヌ ネ"⟩,
   ⟨0xff89, "ノ ハ ヒ フ ヘ ホ マ ミ ム メ モ ヤ ユ ヨ ラ リ ル レ ロ ワ ン \u3099 \u309a"⟩,
   ⟨0xffa1, "ᄀ ᄁ ᆪ ᄂ ᆬ ᆭ ᄃ ᄄ ᄅ ᆰ ᆱ ᆲ ᆳ ᆴ ᆵ ᄚ ᄆ ᄇ ᄈ ᄡ ᄉ ᄊ ᄋ ᄌ ᄍ ᄎ ᄏ ᄐ ᄑ ᄒ"⟩, ⟨0xffc2, "ᅡ ᅢ ᅣ ᅤ ᅥ ᅦ"⟩,
   ⟨0xffca, "ᅧ ᅨ ᅩ ᅪ ᅫ ᅬ"⟩, ⟨0xffd2, "ᅭ ᅮ ᅯ ᅰ ᅱ ᅲ"⟩, ⟨0xffda, "ᅳ ᅴ ᅵ"⟩, ⟨0xffe0, "¢ £ ¬"⟩,
   ⟨0xffe4, "¦ ¥ ₩"⟩, ⟨0xffe8, "│ ← ↑ → ↓ ■ ○"⟩, ⟨0x10781, "ː ˑ æ ʙ ɓ"⟩,
   ⟨0x10787, "ʣ ꭦ ʥ ʤ ɖ ɗ ᶑ ɘ ɞ ʩ ɤ ɢ ɠ ʛ ħ ʜ ɧ ʄ ʪ ʫ ɬ 𝼄 ꞎ ɮ 𝼅 ʎ 𝼆 ø ɶ ɷ q ɺ 𝼈 ɽ ɾ ʀ ʨ ʦ ꭧ"⟩,
   ⟨0x107ae, "ʧ ʈ ⱱ"⟩, ⟨0x107b2, "ʏ ʡ ʢ ʘ ǀ ǁ ǂ 𝼊 𝼞 ʇ ʖ ʗ ʞ 𝼋"⟩,
   ⟨0x16ea0, "𖺻 𖺼 𖺽 𖺾 𖺿 𖻀 𖻁 𖻂 𖻃 𖻄 𖻅 𖻆 𖻇 𖻈 𖻉 𖻊 𖻋 𖻌 𖻍 𖻎 𖻏 𖻐 𖻑 𖻒 𖻓"⟩,
   ⟨0x1ccd6, "a b c d e f g h i j k l m n o p q r s t u v w x y z 0 1 2 3 4 5 6 7 8 9"⟩,
   ⟨0x1d15e, "𝅗𝅥 𝅘𝅥 𝅘𝅥𝅮 𝅘𝅥𝅯 𝅘𝅥𝅰 𝅘𝅥𝅱 𝅘𝅥𝅲"⟩, ⟨0x1d1bb, "𝆹𝅥 𝆺𝅥 𝆹𝅥𝅮 𝆺𝅥𝅮 𝆹𝅥𝅯 𝆺𝅥𝅯"⟩,
   ⟨0x1d400, "a b c d e f g h i j k l m n o p q r s t u v w x y z a b c d e f g h i j k l m"⟩,
   ⟨0x1d427, "n o p q r s t u v w x y z a b c d e f g h i j k l m n o p q r s t u v w x y z"⟩,
   ⟨0x1d44e, "a b c d e f g"⟩,
   ⟨0x1d456, "i j k l m n o p q r s t u v w x y z a b c d e f g h i j k l m n o p q r s t u"⟩,
   ⟨0x1d47d, "v w x y z a b c d e f g h i j k l m n o p q r s t u v w x y z a"⟩, ⟨0x1d49e, "c d"⟩,
   ⟨0x1d4a2, "g"⟩, ⟨0x1d4a5, "j k"⟩, ⟨0x1d4a9, "n o p q"⟩, ⟨0x1d4ae, "s t u v w x y z a b c d"⟩,
   ⟨0x1d4bb, "f"⟩, ⟨0x1d4bd, "h i j k l m n"⟩,
   ⟨0x1d4c5, "p q r s t u v w x y z a b c d e f g h i j k l m n o p q r s t u v w x y z a b"⟩,
   ⟨0x1d4ec, "c d e f g h i j k l m n o p q r s t u v w x y z a b"⟩, ⟨0x1d507, "d e f g"⟩,
   ⟨0x1d50d, "j k l m n o p q"⟩, ⟨0x1d516, "s t u v w x y"⟩,
   ⟨0x1d51e, "a b c d e f g h i j k l m n o p q r s t u v w x y z a b"⟩, ⟨0x1d53b, "d e f g"⟩,
   ⟨0x1d540, "i j k l m"⟩, ⟨0x1d546, "o"⟩, ⟨0x1d54a, "s t u v w x y"⟩,
   ⟨0x1d552, "a b c d e f g h i j k l m n o p q r s t u v w x y z a b c d e f g h i j k l m"⟩,
   ⟨0x1d579, "n o p q r s t u v w x y z a b c d e f g h i j k l m n o p q r s t u v w x y z"⟩,
   ⟨0x1d5a0, "a b c d e f g h i j k l m n o p q r s t u v w x y z a b c d e f g h i j k l m"⟩,
   ⟨0x1d5c7, "n o p q r s t u v w x y z a b c d e f g h i j k l m n o p q r s t u v w x y z"⟩,
   ⟨0x1d5ee, "a b c d e f g h i j k l m n o p q r s t u v w x y z a b c d e f g h i j k l m"⟩,
   ⟨0x1d615, "n o p q r s t u v w x y z a b c d e f g h i j k l m n o p q r s t u v w x y z"⟩,
   ⟨0x1d63c, "a b c d e f g h i j k l m n o p q r s t u v w x y z a b c d e f g h i j k l m"⟩,
   ⟨0x1d663, "n o p q r s t u v w x y z a b c d e f g h i j k l m n o p q r s t u v w x y z"⟩,
   ⟨0x1d68a, "a b c d e f g h i j k l m n o p q r s t u v w x y z ı ȷ ss"⟩,
   ⟨0x1d6a8, "α β γ δ ε ζ η θ ι κ λ μ ν ξ ο π ρ θ σ τ υ φ χ ψ ω ∇ α β γ δ ε ζ η θ ι κ λ μ ν"⟩,
   ⟨0x1d6cf, "ξ ο π ρ σ σ τ υ φ χ ψ ω ∂ ε θ κ φ ρ π α β γ δ ε ζ η θ ι κ λ μ ν ξ ο π ρ θ σ τ"⟩,
   ⟨0x1d6f6, "υ φ χ ψ ω ∇ α β γ δ ε ζ η θ ι κ λ μ ν ξ ο π ρ σ σ τ υ φ χ ψ ω ∂ ε θ κ φ ρ π α"⟩,
   ⟨0x1d71d, "β γ δ ε ζ η θ ι κ λ μ ν ξ ο π ρ θ σ τ υ φ χ ψ ω ∇ α β γ δ ε ζ η θ ι κ λ μ ν ξ"⟩,
   ⟨0x1d744, "ο π ρ σ σ τ υ φ χ ψ ω ∂ ε θ κ φ ρ π α β γ δ ε ζ η θ ι κ λ μ ν ξ ο π ρ θ σ τ υ"⟩,
   ⟨0x1d76b, "φ χ ψ ω ∇ α β γ δ ε ζ η θ ι κ λ μ ν ξ ο π ρ σ σ τ υ φ χ ψ ω ∂ ε θ κ φ ρ π α β"⟩,
   ⟨0x1d792, "γ δ ε ζ η θ ι κ λ μ ν ξ ο π ρ θ σ τ υ φ χ ψ ω ∇ α β γ δ ε ζ η θ ι κ λ μ ν ξ ο"⟩,
   ⟨0x1d7b9, "π ρ σ σ τ υ φ χ ψ ω ∂ ε θ κ φ ρ π ϝ ϝ"⟩,
   ⟨0x1d7ce, "0 1 2 3 4 5 6 7 8 9 0 1 2 3 4 5 6 7 8 9 0 1 2 3 4 5 6 7 8 9 0 1 2 3 4 5 6 7 8"⟩,
   ⟨0x1d7f5, "9 0 1 2 3 4 5 6 7 8 9"⟩, ⟨0x1dfff, "𝼉"⟩,
   ⟨0x1e030, "а б в г д е ж з и к л м о п р с т у ф х ц ч ш ы э ю ꚉ ә і ј ө ү ӏ а б в г д е"⟩,
   ⟨0x1e057, "ж з и к л о п с у ф х ц ч ш ъ ы ґ і ѕ џ ҫ ꙑ ұ"⟩, ⟨0x1ee00, "ا ب ج د"⟩,
   ⟨0x1ee05, "و ز ح ط ي ك ل م ن س ع ف ص ق ر ش ت ث خ ذ ض ظ غ ٮ ں ڡ ٯ"⟩, ⟨0x1ee21, "ب ج"⟩,
   ⟨0x1ee24, "ه"⟩, ⟨0x1ee27, "ح"⟩, ⟨0x1ee29, "ي ك ل م ن س ع ف ص ق"⟩, ⟨0x1ee34, "ش ت ث خ"⟩,
   ⟨0x1ee39, "ض"⟩, ⟨0x1ee3b, "غ"⟩, ⟨0x1ee42, "ج"⟩, ⟨0x1ee47, "ح"⟩, ⟨0x1ee49, "ي"⟩, ⟨0x1ee4b, "ل"⟩,
   ⟨0x1ee4d, "ن س ع"⟩, ⟨0x1ee51, "ص ق"⟩, ⟨0x1ee54, "ش"⟩, ⟨0x1ee57, "خ"⟩, ⟨0x1ee59, "ض"⟩,
   ⟨0x1ee5b, "غ"⟩, ⟨0x1ee5d, "ں"⟩, ⟨0x1ee5f, "ٯ"⟩, ⟨0x1ee61, "ب ج"⟩, ⟨0x1ee64, "ه"⟩,
   ⟨0x1ee67, "ح ط ي ك"⟩, ⟨0x1ee6c, "م ن س ع ف ص ق"⟩, ⟨0x1ee74, "ش ت ث خ"⟩, ⟨0x1ee79, "ض ظ غ ٮ"⟩,
   ⟨0x1ee7e, "ڡ"⟩, ⟨0x1ee80, "ا ب ج د ه و ز ح ط ي"⟩, ⟨0x1ee8b, "ل م ن س ع ف ص ق ر ش ت ث خ ذ ض ظ غ"⟩,
   ⟨0x1eea1, "ب ج د"⟩, ⟨0x1eea5, "و ز ح ط ي"⟩, ⟨0x1eeab, "ل م ن س ع ف ص ق ر ش ت ث خ ذ ض ظ غ"⟩,
   ⟨0x1f101, "0, 1, 2, 3, 4, 5, 6, 7, 8, 9,"⟩,
   ⟨0x1f110, "(a) (b) (c) (d) (e) (f) (g) (h) (i) (j) (k) (l) (m) (n) (o) (p) (q) (r) (s)"⟩,
   ⟨0x1f123, "(t) (u) (v) (w) (x) (y) (z) 〔s〕 c r cd wz"⟩,
   ⟨0x1f130, "a b c d e f g h i j k l m n o p q r s t u v w x y z hv mv sd ss ppv wc"⟩,
   ⟨0x1f16a, "mc md mr"⟩, ⟨0x1f190, "dj"⟩, ⟨0x1f200, "ほか ココ サ"⟩,
   ⟨0x1f210, "手 字 双 デ 二 多 解 天 交 映 無 料 前 後 再 新 初 終 生 販 声 吹 演 投 捕 一 三 遊 左 中 右 指 走 打 禁 空 合 満 有"⟩,
   ⟨0x1f237, "月 申 割 営 配"⟩]

private def equivalents3 : List Equivalents :=
  [⟨0x1f240, "〔本〕 〔三〕 〔二〕 〔安〕 〔点〕 〔打〕 〔盗〕 〔勝〕 〔敗〕"⟩, ⟨0x1f250, "得 可"⟩,
   ⟨0x1fbf0, "0 1 2 3 4 5 6 7 8 9"⟩,
   ⟨0x2f800, "丽 丸 乁 𠄢 你 侮 侻 倂 偺 備 僧 像 㒞 𠘺 免 兔 兤 具 𠔜 㒹 內 再 𠕋 冗 冤 仌 冬 况 𩇟 凵 刃 㓟 刻 剆 割 剷 㔕 勇 勉"⟩,
   ⟨0x2f827, "勤 勺 包 匆 北 卉 卑 博 即 卽 卿 卿 卿 𠨬 灰 及 叟 𠭣 叫 叱 吆 咞 吸 呈 周 咢 哶 唐 啓 啣 善 善 喙 喫 喳 嗂 圖 嘆 圗"⟩,
   ⟨0x2f84e, "噑 噴 切 壮 城 埴 堍 型 堲 報 墬 𡓤 売 壷 夆 多 夢 奢 𡚨 𡛪 姬 娛 娧 姘 婦 㛮 㛼 嬈 嬾 嬾 𡧈 寃 寘 寧 寳 𡬘 寿 将 当"⟩,
   ⟨0x2f875, "尢 㞁 屠 屮 峀 岍 𡷤 嵃 𡷦 嵮 嵫 嵼 巡 巢 㠯 巽 帨 帽 幩 㡢 𢆃 㡼 庰 庳 庶 廊 𪎒 廾 𢌱 𢌱 舁 弢 弢 㣇 𣊸 𦇚 形 彫 㣣"⟩,
   ⟨0x2f89c, "徚 忍 志 忹 悁 㤺 㤜 悔 𢛔 惇 慈 慌 慎 慌 慺 憎 憲 憤 憯 懞 懲 懶 成 戛 扝 抱 拔 捐 𢬌 挽 拼 捨 掃 揤 𢯱 搢 揅 掩 㨮"⟩,
   ⟨0x2f8c3, "摩 摾 撝 摷 㩬 敏 敬 𣀊 旣 書 晉 㬙 暑 㬈 㫤 冒 冕 最 暜 肭 䏙 朗 望 朡 杞 杓 𣏃 㭉 柺 枅 桒 梅 𣑭 梎 栟 椔 㮝 楂 榣"⟩,
   ⟨0x2f8ea, "槪 檨 𣚣 櫛 㰘 次 𣢧 歔 㱎 歲 殟 殺 殻 𣪍 𡴋 𣫺 汎 𣲼 沿 泍 汧 洖 派 海 流 浩 浸 涅 𣴞 洴 港 湮 㴳 滋 滇 𣻑 淹 潮 𣽞"⟩,
   ⟨0x2f911, "𣾎 濆 瀹 瀞 瀛 㶖 灊 災 灷 炭 𠔥 煅 𤉣 熜 𤎫 爨 爵 牐 𤘈 犀 犕 𤜵 𤠔 獺 王 㺬 玥 㺸 㺸 瑇 瑜 瑱 璅 瓊 㼛 甤 𤰶 甾 𤲒"⟩,
   ⟨0x2f938, "異 𢆟 瘐 𤾡 𤾸 𥁄 㿼 䀈 直 𥃳 𥃲 𥄙 𥄳 眞 真 真 睊 䀹 瞋 䁆 䂖 𥐝 硎 碌 磌 䃣 𥘦 祖 𥚚 𥛅 福 秫 䄯 穀 穊 穏 𥥼 𥪧 𥪧"⟩,
   ⟨0x2f95f, "竮 䈂 𥮫 篆 築 䈧 𥲀 糒 䊠 糨 糣 紀 𥾆 絣 䌁 緇 縂 繅 䌴 𦈨 𦉇 䍙 𦋙 罺 𦌾 羕 翺 者 𦓚 𦔣 聠 𦖨 聰 𣍟 䏕 育 脃 䐋 脾"⟩,
   ⟨0x2f986, "媵 𦞧 𦞵 𣎓 𣎜 舁 舄 辞 䑫 芑 芋 芝 劳 花 芳 芽 苦 𦬼 若 茝 荣 莭 茣 莽 菧 著 荓 菊 菌 菜 𦰶 𦵫 𦳕 䔫 蓱 蓳 蔖 𧏊 蕤"⟩,
   ⟨0x2f9ad, "𦼬 䕝 䕡 𦾱 𧃒 䕫 虐 虜 虧 虩 蚩 蚈 蜎 蛢 蝹 蜨 蝫 螆 䗗 蟡 蠁 䗹 衠 衣 𧙧 裗 裞 䘵 裺 㒻 𧢮 𧥦 䚾 䛇 誠 諭 變 豕 𧲨"⟩,
   ⟨0x2f9d4, "貫 賁 贛 起 𧼯 𠠄 跋 趼 跰 𠣞 軔 輸 𨗒 𨗭 邔 郱 鄑 𨜮 鄛 鈸 鋗 鋘 鉼 鏹 鐕 𨯺 開 䦕 閷 𨵷 䧦 雃 嶲 霣 𩅅 𩈚 䩮 䩶 韠"⟩,
   ⟨0x2f9fb, "𩐊 䪲 𩒖 頋 頋 頩 𩖶 飢 䬳 餩 馧 駂 駾 䯎 𩬰 鬒 鱀 鳽 䳎 䳭 鵧 𪃎 䳸 𪄅 𪈎 𪊑 麻 䵖 黹 黾 鼅 鼏 鼖 鼻 𪘀"⟩]

def equivalents : List Equivalents :=
  equivalents1 ++ equivalents2 ++ equivalents3

/-- The table with its texts apart. -/
def equivalentTexts : List (Nat × List (List Char)) :=
  equivalents.map fun e => (e.first, Text.splitAt ' ' e.texts.toList)

/-- The text for which a character stands, which is most often the character itself. -/
def equivalent (c : Char) : List Char :=
  let found := equivalentTexts.findSome? fun (first, texts) =>
    if first ≤ c.toNat then texts[c.toNat - first]? else none
  found.getD [c]

end FeatureFlags.Url
